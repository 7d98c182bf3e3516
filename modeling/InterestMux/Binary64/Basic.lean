/-!
# Binary floating-point numbers

Numbers with a 53-bit mantissa, as sign, mantissa and exponent. All arithmetic is exact, on natural
numbers, and rounds once, to the nearest number, a tie to the even mantissa.

## Main definitions

* `Binary64.ofRatio`, `Binary64.nearest` : the number nearest to a ratio or to a decimal.
* `Binary64.mul`, `Binary64.div` : the product and the quotient.
* `Binary64.toWord` : the nearest 64-bit unsigned integer, a half away from zero.
-/

namespace InterestMux

/-- A binary floating-point number; `finite negative m e` stands for `± m * 2 ^ e`. -/
inductive Binary64 where
  | nan
  | infinite (negative : Bool)
  | finite (negative : Bool) (mantissa : Nat) (exponent : Int)
deriving DecidableEq, Repr, Inhabited

namespace Binary64

/-- The quotient rounded to the nearest natural number, a tie to the even one. -/
def divEven (num den : Nat) : Nat :=
  let q := num / den
  let r := num % den
  if 2 * r < den then q
  else if den < 2 * r then q + 1
  else if q % 2 == 0 then q else q + 1

/-- The largest `k` with `2 ^ k ≤ num / den`, for positive arguments. -/
def log2Ratio (num den : Nat) : Int :=
  let k : Int := num.log2 - den.log2
  let fits :=
    if 0 ≤ k then decide (den * Nat.pow 2 k.toNat ≤ num)
    else decide (den ≤ num * Nat.pow 2 (-k).toNat)
  if fits then k else k - 1

/-- The least mantissa of 53 binary digits, `2 ^ 52`. -/
def leastMantissa : Nat := 4503599627370496

/-- The number nearest to the positive ratio `num / den`. -/
def ofRatio (negative : Bool) (num den : Nat) : Binary64 :=
  let q : Int := max (log2Ratio num den - 52) (-1074)
  let m :=
    if 0 ≤ q then divEven num (den * Nat.pow 2 q.toNat)
    else divEven (num * Nat.pow 2 (-q).toNat) den
  let (m, q) := if m = 2 * leastMantissa then (leastMantissa, q + 1) else (m, q)
  if 971 < q then infinite negative else finite negative m q

/-- The number nearest to `± digits * 10 ^ exponent`. -/
def nearest (negative : Bool) (digits : Nat) (exponent : Int) : Binary64 :=
  let size : Int := (Nat.toDigits 10 digits).length + exponent
  if digits = 0 ∨ size < -400 then finite negative 0 0
  else if 400 < size then infinite negative
  else if 0 ≤ exponent then ofRatio negative (digits * Nat.pow 10 exponent.toNat) 1
  else ofRatio negative digits (Nat.pow 10 (-exponent).toNat)

/-- The binary `m * 2 ^ e` as a ratio. -/
def binaryRatio (m : Nat) (e : Int) : Nat × Nat :=
  if 0 ≤ e then (m * Nat.pow 2 e.toNat, 1) else (m, Nat.pow 2 (-e).toNat)

/-- The number nearest to a natural number. -/
def ofNat (n : Nat) : Binary64 :=
  if n = 0 then finite false 0 0 else ofRatio false n 1

/-- The number is zero. -/
def isZero : Binary64 → Bool
  | finite _ m _ => m == 0
  | _ => false

/-- The number with the other sign. -/
def neg : Binary64 → Binary64
  | nan => nan
  | infinite negative => infinite !negative
  | finite negative m e => finite (!negative) m e

/-- The product of two numbers. -/
def mul : Binary64 → Binary64 → Binary64
  | nan, _ | _, nan => nan
  | infinite a, infinite b => infinite (a != b)
  | infinite a, finite b m _ | finite a m _, infinite b =>
    if m = 0 then nan else infinite (a != b)
  | finite a m e, finite b n f =>
    if m = 0 ∨ n = 0 then finite (a != b) 0 0
    else
      let r := binaryRatio (m * n) (e + f)
      ofRatio (a != b) r.1 r.2

/-- The quotient of two numbers. -/
def div : Binary64 → Binary64 → Binary64
  | nan, _ | _, nan | infinite _, infinite _ => nan
  | infinite a, finite b _ _ => infinite (a != b)
  | finite a _ _, infinite b => finite (a != b) 0 0
  | finite a m e, finite b n f =>
    if n = 0 then (if m = 0 then nan else infinite (a != b))
    else if m = 0 then finite (a != b) 0 0
    else
      let r := binaryRatio m (e - f)
      ofRatio (a != b) r.1 (r.2 * n)

/-- The magnitude rounded to a natural number, a half upward. -/
def roundMagnitude (mantissa : Nat) (exponent : Int) : Nat :=
  if 0 ≤ exponent then mantissa * Nat.pow 2 exponent.toNat
  else
    let parts := Nat.pow 2 (-exponent).toNat
    (2 * mantissa + parts) / (2 * parts)

/-- The nearest 64-bit unsigned integer, a half away from zero; what is no number gives zero. -/
def toWord : Binary64 → UInt64
  | nan => 0
  | infinite negative => if negative then 0 else UInt64.ofNat (UInt64.size - 1)
  | finite true _ _ => 0
  | finite false m e => UInt64.ofNat (min (roundMagnitude m e) (UInt64.size - 1))

end Binary64

end InterestMux
