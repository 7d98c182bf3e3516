import InterestMux.Binary64.Basic

/-!
# Shortest decimal text

`Binary64.text` writes the fewest digits that read back as the same number, and of those the
decimal nearest to it, of two equally near ones the larger. The notation is positional at every
magnitude.
-/

namespace InterestMux.Binary64

/-- The least `j ≤ fuel` with `den ≤ num * 10 ^ j`. -/
def scaleUp (num den : Nat) : Nat → Nat
  | 0 => 0
  | fuel + 1 => if den ≤ num then 0 else 1 + scaleUp (num * 10) den fuel

/-- The decimal exponent of the leading digit of `num / den`. -/
def leadingExponent (num den : Nat) : Int :=
  if den ≤ num then ((Nat.toDigits 10 (num / den)).length : Int) - 1
  else -(scaleUp num den 400 : Int)

/-- A decimal `d * 10 ^ k` as a ratio. -/
def decimalRatio (d : Nat) (k : Int) : Nat × Nat :=
  if 0 ≤ k then (d * Nat.pow 10 k.toNat, 1) else (d, Nat.pow 10 (-k).toNat)

/-- The decimal lies among the reals that round to the positive number `m * 2 ^ e`; the ends of
that interval belong to it exactly if the mantissa is even. -/
def readsAs (m : Nat) (e : Int) (d : Nat) (k : Int) : Bool :=
  let x := decimalRatio d k
  let low := binaryRatio (if m = leastMantissa ∧ -1074 < e then 4 * m - 1 else 4 * m - 2) (e - 2)
  let high := binaryRatio (4 * m + 2) (e - 2)
  let below := low.1 * x.2
  let above := high.1 * x.2
  if m % 2 == 0 then below ≤ x.1 * low.2 && x.1 * high.2 ≤ above
  else below < x.1 * low.2 && x.1 * high.2 < above

/-- The decimals with at most `fuel` more digits that read back, tried from `n` digits upward. -/
def shortestFrom (m : Nat) (e : Int) (n : Nat) : Nat → Nat × Int
  | 0 => (m, e)
  | fuel + 1 =>
    let v := binaryRatio m e
    let k := leadingExponent v.1 v.2 - (n : Int) + 1
    let scaled :=
      if 0 ≤ k then (v.1, v.2 * Nat.pow 10 k.toNat) else (v.1 * Nat.pow 10 (-k).toNat, v.2)
    let d := scaled.1 / scaled.2
    let nearer := if 2 * (scaled.1 % scaled.2) < scaled.2 then d else d + 1
    let farther := if nearer = d then d + 1 else d
    if readsAs m e nearer k then (nearer, k)
    else if readsAs m e farther k then (farther, k)
    else shortestFrom m e (n + 1) fuel

/-- A decimal in positional notation. -/
def positional (d : Nat) (k : Int) : String :=
  let digits := Nat.toDigits 10 d
  if 0 ≤ k then String.ofList (digits ++ List.replicate k.toNat '0')
  else
    let places := (-k).toNat
    let padded := List.replicate (places + 1 - digits.length) '0' ++ digits
    let whole := padded.take (padded.length - places)
    let fraction := (padded.drop (padded.length - places)).reverse.dropWhile (· == '0')
    if fraction.isEmpty then String.ofList whole
    else String.ofList (whole ++ '.' :: fraction.reverse)

/-- The shortest text that reads back as the number. -/
def text : Binary64 → String
  | nan => "NaN"
  | infinite negative => if negative then "-inf" else "inf"
  | finite negative m e =>
    let magnitude :=
      if m = 0 then "0"
      else
        let (d, k) := shortestFrom m e 1 17
        positional d k
    if negative then "-" ++ magnitude else magnitude

end InterestMux.Binary64
