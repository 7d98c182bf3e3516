import InterestMux.Document.Basic
import InterestMux.Text.Numeral

/-!
# JSON documents

`Json.read?` reads one JSON value with blanks around it. Whole numbers of at most 63 bits and a
sign are integers, all other numbers and the negative zero are floating point. Maps keep repeated
keys. Lists and maps nest at most `Json.deepest` deep.
-/

namespace InterestMux.Json

/-- A blank between tokens. -/
def isBlank (c : Char) : Bool :=
  c == ' ' || c == '\t' || c == '\n' || c == '\r'

/-- What follows the blanks at the front. -/
def skip (cs : List Char) : List Char :=
  cs.dropWhile isBlank

/-- Four hexadecimal digits as a number. -/
def hex4? : List Char → Option (Nat × List Char)
  | a :: b :: c :: d :: cs => (Numeral.natural? 16 [a, b, c, d]).map fun n => (n, cs)
  | _ => none

/-- The character after a backslash and the letter for a code unit; two surrogate halves make one
character, and a half alone none. -/
def unicode? (cs : List Char) : Option (Char × List Char) :=
  match hex4? cs with
  | none => none
  | some (high, rest) =>
    if 0xd800 ≤ high ∧ high < 0xdc00 then
      match rest with
      | '\\' :: 'u' :: rest =>
        match hex4? rest with
        | some (low, rest) =>
          if 0xdc00 ≤ low ∧ low < 0xe000 then
            some (Char.ofNat (0x10000 + (high - 0xd800) * 0x400 + (low - 0xdc00)), rest)
          else none
        | none => none
      | _ => none
    else if 0xdc00 ≤ high ∧ high < 0xe000 then none
    else some (Char.ofNat high, rest)

/-- The character that an escape letter stands for. -/
def simpleEscape? : Char → Option Char
  | '"' => some '"'
  | '\\' => some '\\'
  | '/' => some '/'
  | 'b' => some '\x08'
  | 'f' => some '\x0c'
  | 'n' => some '\n'
  | 'r' => some '\r'
  | 't' => some '\t'
  | _ => none

/-- The rest of a string after its opening quote. -/
def string? (read : List Char) : Nat → List Char → Option (String × List Char)
  | 0, _ => none
  | fuel + 1, cs =>
    match cs with
    | '"' :: cs => some (String.ofList read.reverse, cs)
    | '\\' :: 'u' :: cs =>
      match unicode? cs with
      | some (c, cs) => string? (c :: read) fuel cs
      | none => none
    | '\\' :: c :: cs =>
      match simpleEscape? c with
      | some c => string? (c :: read) fuel cs
      | none => none
    | c :: cs => if c.toNat < 0x20 ∨ c = '\\' then none else string? (c :: read) fuel cs
    | [] => none

/-! ### Numbers

A number keeps only as many digits as a 64-bit word holds. Its floating-point value is the word,
multiplied with or divided by a power of ten: two roundings, so that it may differ from the nearest
number in the last bit. -/

/-- The word with one more digit, if 64 bits hold it. -/
def append? (word : Nat) (digit : Char) : Option Nat :=
  let n := 10 * word + (digit.toNat - '0'.toNat)
  if n < UInt64.size then some n else none

/-- The word after as many digits as it holds, from some already read, and the digits left. -/
def gather (word : Nat) : List Char → Nat × List Char
  | [] => (word, [])
  | d :: ds =>
    match append? word d with
    | some n => gather n ds
    | none => (word, d :: ds)

/-- A nonempty run of digits. -/
def digitRun? (cs : List Char) : Option (List Char × List Char) :=
  let (digits, rest) := Numeral.spanDigits cs
  if digits.isEmpty then none else some (digits, rest)

/-- The digits after a point, if there is one. -/
def fraction? : List Char → Option (Option (List Char) × List Char)
  | '.' :: cs => (digitRun? cs).map fun (digits, rest) => (some digits, rest)
  | cs => some (none, cs)

/-- The sign and the digits of the exponent after its letter, if there is one. -/
def exponent? : List Char → Option (Option (Bool × List Char) × List Char)
  | c :: cs =>
    if c == 'e' || c == 'E' then
      let (negative, cs) := Numeral.sign cs
      (digitRun? cs).map fun (digits, rest) => (some (negative, digits), rest)
    else some (none, c :: cs)
  | [] => some (none, [])

/-- The positive number `x * 10 ^ exponent`, unless it is too large. Exponents below -308 are taken
in several steps. -/
def scale? (x : Binary64) (exponent : Int) : Nat → Option Binary64
  | 0 => some x
  | fuel + 1 =>
    if exponent.natAbs ≤ 308 then
      let power := Binary64.ofNat (Nat.pow 10 exponent.natAbs)
      if 0 ≤ exponent then
        match x.mul power with
        | .infinite _ => none
        | y => some y
      else some (x.div power)
    else if x.isZero then some x
    else if 0 ≤ exponent then none
    else scale? (x.div (Binary64.ofNat (Nat.pow 10 308))) (exponent + 308) fuel

/-- The integer that 32 bits with sign hold and that lies nearest to another. -/
def clamp32 (n : Int) : Int :=
  max (-2147483648) (min n 2147483647)

/-- The floating-point number of a word and a power of ten. An exponent of more than 31 bits makes
zero, unless it makes a number too large. -/
def real? (negative : Bool) (word : Nat) (shift : Int) (exponent : Option (Bool × List Char)) :
    Option Document :=
  let magnitude? :=
    match exponent with
    | none => scale? (Binary64.ofNat word) shift 8
    | some (down, digits) =>
      match Numeral.natural? 10 digits with
      | none => none
      | some n =>
        if n < UInt32.size / 2 then
          -- After eight steps of 308 nothing is left of a word.
          scale? (Binary64.ofNat word) (clamp32 (if down then shift - n else shift + n)) 8
        else if word ≠ 0 ∧ !down then none
        else some (Binary64.ofNat 0)
  magnitude?.map fun x => .real (if negative then x.neg else x)

/-- The number with the given parts. Digits of the whole part that the word does not hold count as
powers of ten, those of the fraction not at all. -/
def numeral? (negative : Bool) (whole : List Char) (fraction : Option (List Char))
    (exponent : Option (Bool × List Char)) : Option Document :=
  let (word, more) := gather 0 whole
  match fraction, exponent, more with
  | none, none, [] =>
    if negative then
      if word = 0 ∨ UInt64.size / 2 < word then some (.real (Binary64.ofNat word).neg)
      else some (.integer (-word))
    else if word < UInt64.size / 2 then some (.integer word)
    else some (.real (Binary64.ofNat word))
  | _, _, _ =>
    let places := fraction.getD []
    let (word, rest) := gather word places
    let kept : Int := places.length - rest.length
    real? negative word (more.length - kept) exponent

/-- A number. The whole part has no superfluous zero in front. -/
def number? (cs : List Char) : Option (Document × List Char) :=
  let (negative, cs) := match cs with
    | '-' :: cs => (true, cs)
    | cs => (false, cs)
  match digitRun? cs with
  | none => none
  | some (whole, rest) =>
    if whole.head? == some '0' && whole.length != 1 then none
    else
      match fraction? rest with
      | none => none
      | some (fraction, rest) =>
        match exponent? rest with
        | none => none
        | some (exponent, rest) =>
          (numeral? negative whole fraction exponent).map fun d => (d, rest)

/-- The word at the front of a text, and the rest. -/
def word (cs : List Char) : List Char × List Char :=
  (cs.takeWhile Char.isAlpha, cs.dropWhile Char.isAlpha)

/-- How deep lists and maps may nest. -/
def deepest : Nat := 127

mutual

/-- A value, with blanks in front, in which lists and maps nest at most so deep. -/
def value? (deep : Nat) : Nat → List Char → Option (Document × List Char)
  | 0, _ => none
  | fuel + 1, cs =>
    match skip cs with
    | '"' :: cs => (string? [] (cs.length + 1) cs).map fun (s, rest) => (.text s, rest)
    | '[' :: cs =>
      if deep = 0 then none
      else
        match skip cs with
        | ']' :: rest => some (.list [], rest)
        | cs => (items? (deep - 1) fuel cs).map fun (items, rest) => (.list items, rest)
    | '\x7b' :: cs =>
      if deep = 0 then none
      else
        match skip cs with
        | '\x7d' :: rest => some (.map [], rest)
        | cs => (entries? (deep - 1) fuel cs).map fun (entries, rest) => (.map entries, rest)
    | c :: cs =>
      if c.isAlpha then
        match word (c :: cs) with
        | (['n', 'u', 'l', 'l'], rest) => some (.null, rest)
        | (['t', 'r', 'u', 'e'], rest) => some (.boolean true, rest)
        | (['f', 'a', 'l', 's', 'e'], rest) => some (.boolean false, rest)
        | _ => none
      else number? (c :: cs)
    | [] => none

/-- The items of a list up to its closing bracket. -/
def items? (deep : Nat) : Nat → List Char → Option (List Document × List Char)
  | 0, _ => none
  | fuel + 1, cs =>
    match value? deep fuel cs with
    | none => none
    | some (item, rest) =>
      match skip rest with
      | ',' :: rest => (items? deep fuel rest).map fun (items, rest) => (item :: items, rest)
      | ']' :: rest => some ([item], rest)
      | _ => none

/-- The entries of a map up to its closing brace. -/
def entries? (deep : Nat) : Nat → List Char → Option (List (String × Document) × List Char)
  | 0, _ => none
  | fuel + 1, cs =>
    match skip cs with
    | '"' :: cs =>
      match string? [] (cs.length + 1) cs with
      | none => none
      | some (key, rest) =>
        match skip rest with
        | ':' :: rest =>
          match value? deep fuel rest with
          | none => none
          | some (value, rest) =>
            match skip rest with
            | ',' :: rest =>
              (entries? deep fuel rest).map fun (entries, rest) => ((key, value) :: entries, rest)
            | '\x7d' :: rest => some ([(key, value)], rest)
            | _ => none
        | _ => none
    | _ => none

end

/-- The value that a text consists of. -/
def read? (s : String) : Option Document :=
  match value? deepest (2 * s.length + 2) s.toList with
  | some (d, rest) => if (skip rest).isEmpty then some d else none
  | none => none

end InterestMux.Json
