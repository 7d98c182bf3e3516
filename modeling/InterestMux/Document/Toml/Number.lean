import InterestMux.Document.Basic
import InterestMux.Text.Numeral

/-!
# Numbers of TOML

Integers fit 64 bits with their sign and have no superfluous zero in front; those in other bases
have no sign. Floating-point numbers are decimals or words. Single underscores may stand between
digits.
-/

namespace InterestMux.Toml

/-- The digits at the front of a text, without underscores, and the rest. -/
def grouped (isValid : Char → Bool) : List Char → List Char × List Char
  | '_' :: c :: cs =>
    if isValid c then
      let (digits, rest) := grouped isValid cs
      (c :: digits, rest)
    else ([], '_' :: c :: cs)
  | c :: cs =>
    if isValid c then
      let (digits, rest) := grouped isValid cs
      (c :: digits, rest)
    else ([], c :: cs)
  | [] => ([], [])

/-- A nonempty run of digits that starts with no underscore. -/
def digits? (isValid : Char → Bool) (cs : List Char) : Option (List Char × List Char) :=
  match cs with
  | c :: _ => if isValid c then some (grouped isValid cs) else none
  | [] => none

/-- The digits of a whole number without a superfluous zero in front. -/
def whole? : List Char → Option (List Char × List Char)
  | '0' :: cs => some (['0'], cs)
  | cs => digits? Char.isDigit cs

/-- The digits after a point. -/
def fraction? : List Char → Option (List Char × List Char)
  | '.' :: cs => digits? Char.isDigit cs
  | _ => none

/-- The exponent after its letter. -/
def exponent? : List Char → Option (Int × List Char)
  | c :: cs =>
    if c == 'e' || c == 'E' then do
      let (negative, cs) := Numeral.sign cs
      let (digits, rest) ← digits? Char.isDigit cs
      let n ← Numeral.natural? 10 digits
      some (if negative then -(n : Int) else n, rest)
    else none
  | [] => none

/-- A decimal with a fraction or an exponent or both. One that is too large is refused, unless it
is negative. -/
def decimal? (cs : List Char) : Option (Binary64 × List Char) := do
  let (negative, cs) := Numeral.sign cs
  let (whole, rest) ← whole? cs
  let (places, exponent, rest) ←
    match fraction? rest with
    | some (places, rest) =>
      match exponent? rest with
      | some (e, rest) => some (places, e, rest)
      | none => some (places, 0, rest)
    | none => (exponent? rest).map fun (e, rest) => ([], e, rest)
  let n ← Numeral.natural? 10 (whole ++ places)
  match Binary64.nearest negative n (exponent - places.length) with
  | .infinite false => none
  | x => some (x, rest)

/-- A word for infinity or for no number. -/
def word? (cs : List Char) : Option (Binary64 × List Char) :=
  let (negative, cs) := Numeral.sign cs
  match cs with
  | 'i' :: 'n' :: 'f' :: rest => some (.infinite negative, rest)
  | 'n' :: 'a' :: 'n' :: rest => some (.nan, rest)
  | _ => none

/-- An integer without a sign in a base other than ten. -/
def based? (base : Nat) (cs : List Char) : Option (Int × List Char) := do
  let (digits, rest) ← digits? (fun c => (Numeral.digit? c).getD base < base) cs
  let n ← Numeral.natural? base digits
  if n < UInt64.size / 2 then some (n, rest) else none

/-- An integer. -/
def integer? : List Char → Option (Int × List Char)
  | '0' :: 'x' :: cs => based? 16 cs
  | '0' :: 'o' :: cs => based? 8 cs
  | '0' :: 'b' :: cs => based? 2 cs
  | cs => do
    let (negative, cs) := Numeral.sign cs
    let (digits, rest) ← whole? cs
    let n ← Numeral.signed64? (if negative then '-' :: digits else digits)
    some (n, rest)

/-- A number. -/
def number? (cs : List Char) : Option (Document × List Char) :=
  match (decimal? cs).or (word? cs) with
  | some (x, rest) => some (.real x, rest)
  | none => (integer? cs).map fun (n, rest) => (.integer n, rest)

end InterestMux.Toml
