import InterestMux.Binary64.Basic

/-!
# Numerals

Readers for the texts of numbers: whole numbers in a base, signed and unsigned 64-bit integers,
and binary floating-point numbers in positional or exponent notation.
-/

namespace InterestMux.Numeral

/-- The value of an ASCII digit or letter as a digit. -/
def digit? (c : Char) : Option Nat :=
  if '0' ≤ c ∧ c ≤ '9' then some (c.toNat - '0'.toNat)
  else if 'a' ≤ c ∧ c ≤ 'z' then some (c.toNat - 'a'.toNat + 10)
  else if 'A' ≤ c ∧ c ≤ 'Z' then some (c.toNat - 'A'.toNat + 10)
  else none

/-- The whole number with the given digits, after the digits already read. -/
def digits? (base : Nat) (read : Nat) : List Char → Option Nat
  | [] => some read
  | c :: cs =>
    match digit? c with
    | some d => if d < base then digits? base (base * read + d) cs else none
    | none => none

/-- The whole number written by a nonempty list of digits. -/
def natural? (base : Nat) (cs : List Char) : Option Nat :=
  if cs.isEmpty then none else digits? base 0 cs

/-- The sign in front of a text, and the rest. -/
def sign : List Char → Bool × List Char
  | '-' :: cs => (true, cs)
  | '+' :: cs => (false, cs)
  | cs => (false, cs)

/-- An integer with an optional sign, if it fits 64 bits with sign. -/
def signed64? (cs : List Char) : Option Int :=
  let (negative, rest) := sign cs
  match natural? 10 rest with
  | none => none
  | some n =>
    if negative then (if n ≤ UInt64.size / 2 then some (-(n : Int)) else none)
    else if n < UInt64.size / 2 then some n else none

/-- A whole number with an optional plus sign, if it fits 64 bits. -/
def unsigned64? (cs : List Char) : Option UInt64 :=
  let rest := match cs with
    | '+' :: rest => rest
    | cs => cs
  match natural? 10 rest with
  | some n => if n < UInt64.size then some (UInt64.ofNat n) else none
  | none => none

/-- The decimal digits at the front of a text, and the rest. -/
def spanDigits (cs : List Char) : List Char × List Char :=
  (cs.takeWhile Char.isDigit, cs.dropWhile Char.isDigit)

/-- The exponent part that may end a decimal: nothing, or an `e` with a signed whole number. -/
def exponent? : List Char → Option Int
  | [] => some 0
  | c :: cs =>
    if c == 'e' || c == 'E' then
      let (negative, rest) := sign cs
      (natural? 10 rest).map fun n => if negative then -(n : Int) else n
    else none

/-- A floating-point number without its sign. -/
def magnitude? (negative : Bool) (cs : List Char) : Option Binary64 :=
  let word := String.ofList (cs.map Char.toLower)
  if word == "inf" || word == "infinity" then some (.infinite negative)
  else if word == "nan" then some .nan
  else
    let (whole, rest) := spanDigits cs
    let (fraction, rest) :=
      match rest with
      | '.' :: rest => spanDigits rest
      | rest => ([], rest)
    match natural? 10 (whole ++ fraction), exponent? rest with
    | some n, some e => some (.nearest negative n (e - fraction.length))
    | _, _ => none

/-- A floating-point number: an optional sign, then digits with at most one point among or around
them and an optional exponent, or one of the words for infinity and for no number. -/
def binary64? (cs : List Char) : Option Binary64 :=
  let (negative, rest) := sign cs
  magnitude? negative rest

end InterestMux.Numeral
