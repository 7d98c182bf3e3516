import InterestMux.Proofs.Text.Lowercase
import InterestMux.Settings.Load
import Mathlib.Algebra.Order.Field.Power
import Mathlib.Algebra.Order.Field.Rat
import Mathlib.Tactic.FieldSimp
import Mathlib.Tactic.Linarith
import Mathlib.Tactic.NormNum

/-!
# What values stand for

The value of a setting need not be an integer. A truth value and a word for yes or no stand for one
and zero, a text of digits for the number that it writes, and a floating-point number for the
nearest word. A value is converted exactly if it stands for a number, and to this very number.

## Main definitions

* `IsNumeral` : a text of digits stands for a number.
* `Binary64.value?`, `IsNearest` : a finite number as a ratio, and the word nearest to a ratio.
* `Document.Denotes` : a value stands for a word of 64 bits.

## Main results

* `Numeral.unsigned64?_eq_some_iff` : a text is read as the number for which it stands.
* `Binary64.isNearest_toWord` : a finite number is rounded to the nearest word.
* `convert64_eq_ok_iff`, `convert32?_eq_ok_iff` : a value is converted to what it stands for.
* `convert64_of_not_denotes`, `convert32?_of_denotes` : what is reported of other values.
-/

namespace InterestMux

theorem bind_eq_ok_iff {ε α β : Type} {x : Except ε α} {f : α → Except ε β} {b : β} :
    x >>= f = .ok b ↔ ∃ a, x = .ok a ∧ f a = .ok b := by
  cases x <;> simp [bind, Except.bind]

theorem ofNat_eq_some_iff {n : Nat} {w : UInt64} :
    (if n < UInt64.size then some (UInt64.ofNat n) else none) = some w ↔ n = w.toNat := by
  rw [Option.ite_none_right_eq_some, Option.some.injEq]
  constructor
  · rintro ⟨hlt, rfl⟩
    exact (UInt64.toNat_ofNat_of_lt' hlt).symm
  · rintro rfl
    exact ⟨w.toNat_lt, UInt64.ofNat_toNat⟩

theorem toUInt64_ofNat_toNat {w : UInt64} (hlt : w.toNat < UInt32.size) :
    (UInt32.ofNat w.toNat).toUInt64 = w := by
  apply UInt64.toNat_inj.mp
  rw [UInt32.toNat_toUInt64, UInt32.toNat_ofNat_of_lt' hlt]

/-! ### Numerals -/

/-- The characters are digits in base ten, after a plus sign or not, that stand for the number. -/
def IsNumeral (cs : List Char) (n : Nat) : Prop :=
  ∃ digits, (cs = digits ∨ cs = '+' :: digits) ∧ digits ≠ [] ∧
    (∀ c ∈ digits, c.isDigit = true) ∧ Nat.ofDigitChars 10 digits 0 = n

namespace Numeral

theorem digit?_of_isDigit {c : Char} (hdigit : c.isDigit = true) :
    digit? c = some (c.toNat - '0'.toNat) := by
  obtain ⟨hlower, hupper⟩ := Char.isDigit_iff_toNat.mp hdigit
  exact if_pos ⟨hlower, hupper⟩

theorem isDigit_of_digit? {c : Char} {d : Nat} (h : digit? c = some d) (hten : d < 10) :
    c.isDigit = true := by
  unfold digit? at h
  split at h
  · rename_i hdigit
    exact Char.isDigit_iff_toNat.mpr hdigit
  split at h
  · obtain rfl := Option.some.inj h
    omega
  · obtain ⟨-, h⟩ := Option.ite_none_right_eq_some.mp h
    obtain rfl := Option.some.inj h
    omega

/-- Digits are read one after another, from the number that is already read. -/
theorem digits?_eq_some_iff {cs : List Char} {read n : Nat} : digits? 10 read cs = some n ↔
    (∀ c ∈ cs, c.isDigit = true) ∧ Nat.ofDigitChars 10 cs read = n := by
  induction cs generalizing read with
  | nil => simp [digits?]
  | cons c cs ih =>
    rw [List.forall_mem_cons, Nat.ofDigitChars_cons, and_assoc]
    by_cases hdigit : c.isDigit = true
    · have hten : c.toNat - '0'.toNat < 10 := by
        have hupper : c.toNat ≤ 57 := (Char.isDigit_iff_toNat.mp hdigit).2
        have hzero : '0'.toNat = 48 := rfl
        omega
      simp only [digits?, digit?_of_isDigit hdigit, if_pos hten, ih, hdigit, true_and]
    · have hnone : digits? 10 read (c :: cs) = none := by
        rw [digits?]
        split
        · rename_i hread
          exact if_neg fun hten => hdigit (isDigit_of_digit? hread hten)
        · rfl
      simp [hnone, hdigit]

theorem natural?_eq_some_iff {cs : List Char} {n : Nat} : natural? 10 cs = some n ↔
    cs ≠ [] ∧ (∀ c ∈ cs, c.isDigit = true) ∧ Nat.ofDigitChars 10 cs 0 = n := by
  rw [natural?, Option.ite_none_left_eq_some, digits?_eq_some_iff, List.isEmpty_iff]

theorem unsigned64?_plus_iff {cs : List Char} {w : UInt64} :
    unsigned64? ('+' :: cs) = some w ↔ natural? 10 cs = some w.toNat := by
  rw [unsigned64?]
  cases natural? 10 cs with
  | none => simp
  | some n => exact ofNat_eq_some_iff.trans Option.some_inj.symm

theorem unsigned64?_iff_of_ne {cs : List Char} {w : UInt64} (hplus : ∀ rest, cs ≠ '+' :: rest) :
    unsigned64? cs = some w ↔ natural? 10 cs = some w.toNat := by
  rw [unsigned64?]
  · cases natural? 10 cs with
    | none => simp
    | some n => exact ofNat_eq_some_iff.trans Option.some_inj.symm
  · exact hplus

/-- **A text is read as the number for which it stands**, if that has no more than 64 bits. -/
theorem unsigned64?_eq_some_iff {cs : List Char} {w : UInt64} :
    unsigned64? cs = some w ↔ IsNumeral cs w.toNat := by
  by_cases hplus : ∃ rest, cs = '+' :: rest
  · obtain ⟨rest, rfl⟩ := hplus
    rw [unsigned64?_plus_iff, natural?_eq_some_iff]
    refine ⟨fun h => ⟨rest, .inr rfl, h⟩, ?_⟩
    rintro ⟨digits, rfl | hcs, hne, hdigits, hvalue⟩
    · -- A plus sign is no digit.
      exact absurd (hdigits '+' List.mem_cons_self) (by decide)
    · obtain rfl := List.tail_eq_of_cons_eq hcs
      exact ⟨hne, hdigits, hvalue⟩
  · rw [not_exists] at hplus
    rw [unsigned64?_iff_of_ne hplus, natural?_eq_some_iff]
    refine ⟨fun h => ⟨cs, .inl rfl, h⟩, ?_⟩
    rintro ⟨digits, rfl | hcs, hdigits⟩
    · exact hdigits
    · exact absurd hcs (hplus digits)

end Numeral

/-! ### Floating-point numbers -/

/-- The ratio that a finite number is. -/
def Binary64.value? : Binary64 → Option ℚ
  | finite false m e => some (m * 2 ^ e)
  | finite true m e => some (-(m * 2 ^ e))
  | nan | infinite _ => none

/-- The word is the nearest to the ratio, or the greater one of two. Beyond all words, the least or
the greatest one is. -/
structure IsNearest (v : ℚ) (w : UInt64) : Prop where
  lower : w = 0 ∨ (w.toNat : ℚ) - 1 / 2 ≤ v
  upper : w.toNat = UInt64.size - 1 ∨ v < w.toNat + 1 / 2

theorem IsNearest.unique {v : ℚ} {w w' : UInt64} (h : IsNearest v w) (h' : IsNearest v w') :
    w = w' := by
  have hle {w w' : UInt64} (h : IsNearest v w) (h' : IsNearest v w') : w'.toNat ≤ w.toNat := by
    by_contra hlt
    rw [not_le] at hlt
    have hw' : w'.toNat < UInt64.size := w'.toNat_lt
    have hsucc : (w.toNat : ℚ) + 1 ≤ w'.toNat := by exact_mod_cast hlt
    -- The ratio is less than a half above the one word, and at most a half below the other.
    rcases h'.lower with rfl | hlower
    · exact absurd hlt (Nat.not_lt_zero _)
    rcases h.upper with hmax | hupper
    · omega
    · linarith
  exact UInt64.toNat_inj.mp (Nat.le_antisymm (hle h' h) (hle h h'))

namespace Binary64

/-- A half is rounded upward. -/
theorem roundMagnitude_spec (m : Nat) (e : Int) :
    (roundMagnitude m e : ℚ) - 1 / 2 ≤ m * 2 ^ e ∧
      (m : ℚ) * 2 ^ e < roundMagnitude m e + 1 / 2 := by
  rw [roundMagnitude]
  by_cases he : 0 ≤ e
  · obtain ⟨k, rfl⟩ := Int.eq_ofNat_of_zero_le he
    rw [if_pos he]
    simp
  · obtain ⟨k, rfl⟩ : ∃ k : Nat, e = -k := ⟨(-e).toNat, by omega⟩
    rw [if_neg he, neg_neg, Int.toNat_natCast, zpow_neg, zpow_natCast, ← div_eq_mul_inv]
    simp only [Nat.pow_eq]
    -- The quotient by twice the divisor, with one divisor added, is rounded to the nearest.
    have hparts : (0 : ℚ) < 2 ^ k := by positivity
    have hlower : (2 * m + 2 ^ k) / (2 * 2 ^ k) * (2 * 2 ^ k) ≤ 2 * m + 2 ^ k :=
      Nat.div_mul_le_self _ _
    have hupper : 2 * m + 2 ^ k < ((2 * m + 2 ^ k) / (2 * 2 ^ k) + 1) * (2 * 2 ^ k) :=
      Nat.lt_mul_of_div_lt (Nat.lt_succ_self _) (by positivity)
    generalize (2 * m + 2 ^ k) / (2 * 2 ^ k) = q at hlower hupper
    have hlower : (q : ℚ) * (2 * 2 ^ k) ≤ 2 * m + 2 ^ k := by exact_mod_cast hlower
    have hupper : 2 * m + 2 ^ k < ((q : ℚ) + 1) * (2 * 2 ^ k) := by exact_mod_cast hupper
    rw [le_div_iff₀ hparts, div_lt_iff₀ hparts]
    constructor <;> linarith

/-- **A finite number is rounded to the nearest word.** -/
theorem isNearest_toWord {x : Binary64} {v : ℚ} (hvalue : x.value? = some v) :
    IsNearest v x.toWord := by
  cases x with
  | nan | infinite => cases hvalue
  | finite negative m e =>
    cases negative with
    | true =>
      obtain rfl := Option.some.inj hvalue
      have hpositive : (0 : ℚ) ≤ m * 2 ^ e := by positivity
      have hword : (toWord (finite true m e)).toNat = 0 := rfl
      refine ⟨.inl rfl, .inr ?_⟩
      rw [hword, Nat.cast_zero]
      linarith
    | false =>
      obtain rfl := Option.some.inj hvalue
      obtain ⟨hlower, hupper⟩ := roundMagnitude_spec m e
      have hword : (toWord (finite false m e)).toNat =
          min (roundMagnitude m e) (UInt64.size - 1) :=
        UInt64.toNat_ofNat_of_lt' (Nat.lt_of_le_of_lt (Nat.min_le_right _ _) (by decide))
      rcases Nat.le_total (roundMagnitude m e) (UInt64.size - 1) with hle | hge
      · rw [Nat.min_eq_left hle] at hword
        rw [← hword] at hlower hupper
        exact ⟨.inr hlower, .inr hupper⟩
      · rw [Nat.min_eq_right hge] at hword
        have hge : ((UInt64.size - 1 : Nat) : ℚ) ≤ roundMagnitude m e := by exact_mod_cast hge
        refine ⟨.inr ?_, .inl hword⟩
        rw [hword]
        exact (sub_le_sub_right hge _).trans hlower

end Binary64

/-! ### Documents -/

/-- The value stands for the word. Infinities stand for the words at the ends, and what is no number
stands for zero. -/
inductive Document.Denotes : Document → UInt64 → Prop
  | integer (w : UInt64) : Denotes (.integer w.toNat) w
  | yes : Denotes (.boolean true) 1
  | no : Denotes (.boolean false) 0
  | yesWord {s : String} (hword : lowercase s ∈ ["true", "on", "yes"]) : Denotes (.text s) 1
  | noWord {s : String} (hword : lowercase s ∈ ["false", "off", "no"]) : Denotes (.text s) 0
  | numeral {s : String} {w : UInt64} (hdigits : IsNumeral s.toList w.toNat) :
    Denotes (.text s) w
  | finite {x : Binary64} {v : ℚ} {w : UInt64} (hvalue : x.value? = some v)
    (hnearest : IsNearest v w) : Denotes (.real x) w
  | infinite : Denotes (.real (.infinite false)) (UInt64.ofNat (UInt64.size - 1))
  | negativeInfinite : Denotes (.real (.infinite true)) 0
  | nan : Denotes (.real .nan) 0

theorem Document.word64?_integer_eq_some_iff {n : Int} {w : UInt64} :
    (integer n).word64? = some w ↔ n = w.toNat := by
  rw [word64?, Option.ite_none_right_eq_some, Option.some.injEq]
  constructor
  · rintro ⟨⟨hpositive, hlt⟩, rfl⟩
    rw [UInt64.toNat_ofNat_of_lt' (by omega), Int.toNat_of_nonneg hpositive]
  · rintro rfl
    have hlt : w.toNat < UInt64.size := w.toNat_lt
    exact ⟨⟨by omega, by omega⟩, by rw [Int.toNat_natCast, UInt64.ofNat_toNat]⟩

theorem IsNumeral.exists_isDigit {s : String} {n : Nat} (h : IsNumeral s.toList n) :
    ∃ c ∈ (lowercase s).toList, c.isDigit = true := by
  obtain ⟨digits, hcs, hne, hdigits, -⟩ := h
  obtain ⟨c, hc⟩ := List.exists_mem_of_ne_nil digits hne
  have hmem : c ∈ s.toList := by
    rcases hcs with hcs | hcs
    · rwa [hcs]
    · rw [hcs]
      exact List.mem_cons_of_mem _ hc
  have hdigit := hdigits c hc
  have hascii : c.toNat < 0x80 :=
    Nat.lt_of_le_of_lt (Char.isDigit_iff_toNat.mp hdigit).2 (by decide)
  have hsmall : smallLetter c = c := by
    rw [smallLetter_of_ascii hascii]
    exact forall_ascii (P := fun c => c.isDigit = true → c.toLower = c) (by decide +kernel)
      hascii hdigit
  exact ⟨c, hsmall ▸ mem_lowercase hmem hascii, hdigit⟩

/-- A word for yes or no is no numeral. -/
theorem not_isNumeral_of_mem {s : String} {n : Nat} {words : List String}
    (hwords : ∀ word ∈ words, word.toList.any Char.isDigit = false)
    (hword : lowercase s ∈ words) : ¬ IsNumeral s.toList n := by
  intro h
  obtain ⟨c, hc, hdigit⟩ := h.exists_isDigit
  exact List.any_eq_false.mp (hwords _ hword) c hc hdigit

/-- **A text is converted to what it stands for.** -/
theorem word64OfText?_eq_some_iff {s : String} {w : UInt64} :
    word64OfText? s = some w ↔ (Document.text s).Denotes w := by
  have hyes : (lowercase s = "true" ∨ lowercase s = "on" ∨ lowercase s = "yes") ↔
      lowercase s ∈ ["true", "on", "yes"] := by simp
  have hno : (lowercase s = "false" ∨ lowercase s = "off" ∨ lowercase s = "no") ↔
      lowercase s ∈ ["false", "off", "no"] := by simp
  simp only [word64OfText?, hyes, hno]
  constructor
  · intro h
    split at h
    · obtain rfl := Option.some.inj h
      exact .yesWord ‹_›
    split at h
    · obtain rfl := Option.some.inj h
      exact .noWord ‹_›
    · exact .numeral (Numeral.unsigned64?_eq_some_iff.mp h)
  · intro h
    cases h with
    | yesWord hword => exact if_pos hword
    | noWord hword =>
      have hother : ∀ word ∈ ["false", "off", "no"], word ∉ ["true", "on", "yes"] := by decide
      rw [if_neg (hother _ hword), if_pos hword]
    | numeral hdigits =>
      rw [if_neg fun hword => not_isNumeral_of_mem (by decide) hword hdigits,
        if_neg fun hword => not_isNumeral_of_mem (by decide) hword hdigits]
      exact Numeral.unsigned64?_eq_some_iff.mpr hdigits

variable {d : Document} {w : UInt64}

/-- **A value is converted exactly if it stands for a word**, and to this word. -/
theorem convert64_eq_ok_iff : convert64 d = .ok w ↔ d.Denotes w := by
  cases d with
  | null | list | map => constructor <;> (intro h; cases h)
  | integer n =>
    have hconvert : convert64 (.integer n) = .ok w ↔ n = w.toNat := by
      rw [← Document.word64?_integer_eq_some_iff, convert64]
      cases (Document.integer n).word64? <;> simp
    rw [hconvert]
    constructor
    · rintro rfl
      exact .integer w
    · rintro ⟨⟩
      rfl
  | boolean b =>
    constructor
    · intro h
      obtain rfl := Except.ok.inj h
      cases b
      · exact .no
      · exact .yes
    · rintro ⟨⟩ <;> rfl
  | text s =>
    rw [← word64OfText?_eq_some_iff, convert64]
    cases word64OfText? s <;> simp
  | real x =>
    constructor
    · intro h
      obtain rfl := Except.ok.inj h
      cases x with
      | nan => exact .nan
      | infinite negative =>
        cases negative
        · exact .infinite
        · exact .negativeInfinite
      | finite negative m e =>
        cases negative <;> exact .finite rfl (Binary64.isNearest_toWord rfl)
    · intro h
      cases h with
      | finite hvalue hnearest =>
        exact congrArg Except.ok ((Binary64.isNearest_toWord hvalue).unique hnearest)
      | infinite | negativeInfinite | nan => rfl

/-- A value that stands for no word is reported, an integer as it is and any other by its kind. -/
theorem convert64_of_not_denotes (hnone : ∀ w, ¬ d.Denotes w) :
    convert64 d = .error (match d with
      | .integer n => .outside n
      | d => .unsuited d.kindText) := by
  cases d with
  | null | list | map => rfl
  | boolean | real => exact absurd (convert64_eq_ok_iff.mp rfl) (hnone _)
  | integer n =>
    cases hword : (Document.integer n).word64? with
    | none => rw [convert64, hword]
    | some w => exact absurd (convert64_eq_ok_iff.mp (by rw [convert64, hword])) (hnone w)
  | text s =>
    cases hword : word64OfText? s with
    | none => rw [convert64, hword]
    | some w => exact absurd (word64OfText?_eq_some_iff.mp hword) (hnone w)

theorem convert32?_of_ne_null (hnull : d ≠ .null) : convert32? d = convert64 d >>= fun w =>
    if w.toNat < UInt32.size then .ok (some (UInt32.ofNat w.toNat)) else .error (.tooWide w) := by
  rw [convert32?]
  · cases convert64 d <;> rfl
  · exact hnull

theorem convert32?_of_denotes (hword : d.Denotes w) (hwide : UInt32.size ≤ w.toNat) :
    convert32? d = .error (.tooWide w) := by
  rw [convert32?_of_ne_null (by rintro rfl; cases hword), convert64_eq_ok_iff.mpr hword]
  exact if_neg (Nat.not_lt_of_le hwide)

/-- **A value is converted to 32 bits exactly if it stands for a number of so many**; null stands
for none at all. -/
theorem convert32?_eq_ok_iff {v : Option UInt32} : convert32? d = .ok v ↔
    d = .null ∧ v = none ∨ ∃ n : UInt32, v = some n ∧ d.Denotes n.toUInt64 := by
  by_cases hnull : d = .null
  · subst hnull
    constructor
    · intro h
      obtain rfl := Except.ok.inj h
      exact .inl ⟨rfl, rfl⟩
    · rintro (⟨-, rfl⟩ | ⟨n, -, hn⟩)
      · rfl
      · cases hn
  · rw [convert32?_of_ne_null hnull, bind_eq_ok_iff]
    simp only [convert64_eq_ok_iff, hnull, false_and, false_or]
    constructor
    · rintro ⟨w, hword, h⟩
      split at h
      · rename_i hlt
        refine ⟨UInt32.ofNat w.toNat, (Except.ok.inj h).symm, ?_⟩
        rwa [toUInt64_ofNat_toNat hlt]
      · cases h
    · rintro ⟨n, rfl, hword⟩
      have hlt : n.toUInt64.toNat < UInt32.size := n.toNat_lt
      exact ⟨n.toUInt64, hword, by rw [if_pos hlt, UInt32.toNat_toUInt64, UInt32.ofNat_toNat]⟩

end InterestMux
