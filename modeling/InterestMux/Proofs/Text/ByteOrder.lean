import Mathlib.Data.List.Lex
import Mathlib.Order.Basic

/-!
# The order of texts is the order of their bytes

Texts are compared by code point. Their UTF-8 bytes compare alike: the first byte of a character
tells how many follow, and longer forms have greater first bytes; of two characters with forms of
one length, the greater has the greater digits, six bits to a byte.

## Main definitions

* `Utf8.lead`, `Utf8.continuations` : the first byte of a character, and those that follow.
* `Utf8.bytes` : the bytes of a text.

## Main results

* `Utf8.encode_lt` : a smaller character is told from a greater one within its bytes.
* `Utf8.lt_iff_bytes_lt`, `Utf8.compare_eq_lt_iff` : texts compare as their bytes do.
-/

namespace InterestMux.Utf8

/-! ### Characters -/

/-- How many bytes follow the first byte of a code point. -/
def following (n : Nat) : Nat :=
  if n < 0x80 then 0 else if n < 0x800 then 1 else if n < 0x10000 then 2 else 3

/-- What the first byte carries to tell how many follow. -/
def mark : Nat → Nat
  | 0 => 0
  | 1 => 0xc0
  | 2 => 0xe0
  | _ => 0xf0

/-- What a digit in front of so many others of six bits counts. -/
def weight : Nat → Nat
  | 0 => 1
  | k + 1 => weight k * 64

/-- The first byte of a code point. -/
def lead (n : Nat) : Nat :=
  n / weight (following n) + mark (following n)

/-- The last bytes of a code point, with six bits each. -/
def continuations (n : Nat) : Nat → List UInt8
  | 0 => []
  | k + 1 => UInt8.ofNat (n / weight k % 64 + 0x80) :: continuations n k

theorem toNat_lt (c : Char) : c.toNat < 0x110000 := by
  rcases c.valid with hc | ⟨-, hc⟩
  · exact Nat.lt_trans hc (by decide)
  · exact hc

theorem utf8EncodeChar_eq (c : Char) :
    String.utf8EncodeChar c =
      UInt8.ofNat (lead c.toNat) :: continuations c.toNat (following c.toNat) := by
  have hc := toNat_lt c
  have hval : c.val.toNat = c.toNat := rfl
  simp only [String.utf8EncodeChar, hval, lead, following]
  split_ifs <;> (try (exfalso; omega)) <;> simp [continuations, mark, weight]
  -- The first byte has no digit too many.
  all_goals
    congr 1
    omega

theorem lead_lt {n : Nat} (h : n < 0x110000) : lead n < UInt8.size := by
  rw [lead, following]
  split_ifs <;> simp only [mark, weight, UInt8.size] <;> omega

/-- Of two code points, the greater has the greater first byte, unless the first bytes agree. -/
theorem lead_lt_or {m n : Nat} (h : m < n) (hn : n < 0x110000) :
    lead m < lead n ∨
      lead m = lead n ∧ following m = following n ∧
        m / weight (following n) = n / weight (following n) := by
  have hdiv := Nat.div_le_div_right (c := weight (following n)) (Nat.le_of_lt h)
  by_cases hsame : following m = following n
  · rw [lead, lead, hsame]
    omega
  · left
    simp only [lead, following] at hsame ⊢
    split_ifs at hsame ⊢ <;> simp only [mark, weight] <;> omega

theorem continuations_lt {m n : Nat} (h : m < n) (xs ys : List UInt8) :
    ∀ k, m / weight k = n / weight k → continuations m k ++ xs < continuations n k ++ ys
  | 0, hfront => by
    rw [weight, Nat.div_one, Nat.div_one] at hfront
    exact absurd hfront (Nat.ne_of_lt h)
  | k + 1, hfront => by
    rw [continuations, continuations, List.cons_append, List.cons_append, List.cons_lt_cons_iff]
    rw [weight, ← Nat.div_div_eq_div_mul, ← Nat.div_div_eq_div_mul] at hfront
    have hle := Nat.div_le_div_right (c := weight k) (Nat.le_of_lt h)
    rcases Nat.lt_or_eq_of_le hle with hlt | hsame
    · left
      have hbyte (n : Nat) : n / weight k % 64 + 0x80 < UInt8.size := by
        simp only [UInt8.size]
        omega
      rw [UInt8.lt_iff_toNat_lt, UInt8.toNat_ofNat_of_lt' (hbyte m),
        UInt8.toNat_ofNat_of_lt' (hbyte n)]
      omega
    · exact .inr ⟨by rw [hsame], continuations_lt h xs ys k hsame⟩

/-- **A smaller character is told from a greater one within its bytes**, whatever follows. -/
theorem encode_lt {c d : Char} (h : c < d) (xs ys : List UInt8) :
    String.utf8EncodeChar c ++ xs < String.utf8EncodeChar d ++ ys := by
  have hcd : c.toNat < d.toNat := h
  have hd := toNat_lt d
  rw [utf8EncodeChar_eq, utf8EncodeChar_eq, List.cons_append, List.cons_append,
    List.cons_lt_cons_iff]
  rcases lead_lt_or hcd hd with hlt | ⟨hlead, hlength, hfront⟩
  · left
    rwa [UInt8.lt_iff_toNat_lt, UInt8.toNat_ofNat_of_lt' (lead_lt (hcd.trans hd)),
      UInt8.toNat_ofNat_of_lt' (lead_lt hd)]
  · rw [hlead, hlength]
    exact .inr ⟨rfl, continuations_lt hcd xs ys _ hfront⟩

/-! ### Texts -/

/-- The bytes of a text. -/
def bytes (s : String) : List UInt8 :=
  s.toByteArray.data.toList

theorem bytes_eq (s : String) : bytes s = s.toList.flatMap String.utf8EncodeChar := by
  rw [bytes, ← String.utf8Encode_toList, List.utf8Encode, List.toList_data_toByteArray]

theorem flatMap_lt {cs ds : List Char} (h : cs < ds) :
    cs.flatMap String.utf8EncodeChar < ds.flatMap String.utf8EncodeChar := by
  induction h with
  | nil =>
    rw [List.flatMap_cons, utf8EncodeChar_eq]
    exact List.nil_lt_cons _ _
  | rel h => exact encode_lt h _ _
  | cons _ ih =>
    rw [List.flatMap_cons, List.flatMap_cons]
    exact List.Lex.append_left _ ih _

/-- **Texts are ordered as their bytes are.** -/
theorem lt_iff_bytes_lt {s t : String} : s < t ↔ bytes s < bytes t := by
  have hlt {s t : String} (h : s < t) : bytes s < bytes t := by
    rw [bytes_eq, bytes_eq]
    exact flatMap_lt h
  refine ⟨hlt, fun h => ?_⟩
  by_contra hle
  have hts := String.not_lt.mp hle
  by_cases hst : s = t
  · subst hst
    exact List.lt_irrefl _ h
  · have hgreater := String.not_le.mp fun hst' => hst (String.le_antisymm hst' hts)
    exact List.lt_asymm h (hlt hgreater)

theorem compare_eq_lt_iff {s t : String} : Ord.compare s t = .lt ↔ bytes s < bytes t :=
  compareOfLessAndEq_eq_lt.trans lt_iff_bytes_lt

end InterestMux.Utf8
