import InterestMux.Text.Lowercase

/-!
# Small letters

A text in small letters has no capital of ASCII left, and no sign that has a small form in ASCII. So
if it is put in small letters once more and then is a text in ASCII, it was that text before. What
is in ASCII and no capital stays where it is.

## Main definitions

* `isSmall` : no capital of ASCII, and not the sign for kelvin, whose small form is a `k`.

## Main results

* `mem_lowercase` : a character of ASCII goes to its small form, whatever surrounds it.
* `lowercase_append_underscore` : an underscore at the end changes nothing.
* `isSmall_of_mem_lowercase` : the characters of a text in small letters are small.
* `eq_of_lowercase_eq` : of small characters, only a text in ASCII itself has it as small form.
-/

namespace InterestMux

/-- The character is no capital of ASCII, and not the sign for kelvin. -/
def isSmall (c : Char) : Bool :=
  !c.isUpper && c != '\u212a'

/-! ### Letters -/

/-- Beyond ASCII, small forms lie beyond ASCII but for that of the kelvin sign, are characters, and
are not the kelvin sign. -/
theorem capitalRanges_spec : ∀ r ∈ capitalRanges, r.last < 0x80 ∨
    r.first = 0x212a ∧ r.last = 0x212a ∨
    0x80 ≤ r.first + r.shift ∧ (r.last + r.shift < 0x212a ∨
      0x212a < r.first + r.shift ∧ r.last + r.shift < 0xd800 ∨
      0xdfff < r.first + r.shift ∧ r.last + r.shift < 0x110000) := by
  decide +kernel

theorem forall_ascii {P : Char → Prop} (hall : ∀ n < 0x80, P (Char.ofNat n)) {c : Char}
    (hascii : c.toNat < 0x80) : P c := by
  have hc := hall c.toNat hascii
  rwa [Char.ofNat_toNat] at hc

theorem smallLetter_of_ascii {c : Char} (hascii : c.toNat < 0x80) : smallLetter c = c.toLower :=
  if_pos hascii

theorem smallLetter_of_beyond {c : Char} (hbeyond : 0x80 ≤ c.toNat) (hkelvin : c.toNat ≠ 0x212a) :
    0x80 ≤ (smallLetter c).toNat ∧ (smallLetter c).toNat ≠ 0x212a := by
  rw [smallLetter, if_neg (Nat.not_lt.mpr hbeyond)]
  split
  case h_2 => exact ⟨hbeyond, hkelvin⟩
  case h_1 r hfind =>
    have hr := capitalRanges_spec r (List.mem_of_find?_eq_some hfind)
    have hin := List.find?_some hfind
    simp only [Bool.and_eq_true, decide_eq_true_eq] at hin
    obtain ⟨⟨hfirst, hlast⟩, -⟩ := hin
    have himage : ((c.toNat + r.shift).toNat : Int) = c.toNat + r.shift :=
      Int.toNat_of_nonneg (by omega)
    have hvalid : (c.toNat + r.shift).toNat.isValidChar := by
      unfold Nat.isValidChar
      omega
    have hnat : (Char.ofNat (c.toNat + r.shift).toNat).toNat = (c.toNat + r.shift).toNat :=
      congrArg Char.toNat (dif_pos hvalid)
    rw [hnat]
    omega

theorem isSmall_of_beyond {c : Char} (hbeyond : 0x80 ≤ c.toNat) (hkelvin : c.toNat ≠ 0x212a) :
    isSmall c = true := by
  have hupper : c.isUpper = false :=
    decide_eq_false fun hin => absurd (Nat.le_trans hbeyond hin.2) (by decide)
  have hother : c ≠ '\u212a' := fun hc => hkelvin (congrArg Char.toNat hc)
  rw [isSmall, hupper]
  exact bne_iff_ne.mpr hother

theorem isSmall_smallLetter (c : Char) : isSmall (smallLetter c) = true := by
  by_cases hascii : c.toNat < 0x80
  · rw [smallLetter_of_ascii hascii]
    exact forall_ascii (P := fun c => isSmall c.toLower = true) (by decide +kernel) hascii
  by_cases hkelvin : c.toNat = 0x212a
  · obtain rfl : c = '\u212a' := Char.toNat_inj.mp hkelvin
    decide +kernel
  · obtain ⟨hbeyond, hother⟩ := smallLetter_of_beyond (Nat.not_lt.mp hascii) hkelvin
    exact isSmall_of_beyond hbeyond hother

theorem smallLetter_eq_self {c : Char} (hsmall : isSmall c = true)
    (hascii : (smallLetter c).toNat < 0x80) : smallLetter c = c := by
  obtain ⟨hupper, hkelvin⟩ := Bool.and_eq_true_iff.mp hsmall
  by_cases hc : c.toNat < 0x80
  · rw [smallLetter_of_ascii hc]
    exact forall_ascii (P := fun c => (!c.isUpper) = true → c.toLower = c) (by decide +kernel) hc
      hupper
  · obtain ⟨hbeyond, -⟩ := smallLetter_of_beyond (Nat.not_lt.mp hc)
      fun hnat => bne_iff_ne.mp hkelvin (Char.toNat_inj.mp hnat)
    exact absurd hascii (Nat.not_lt.mpr hbeyond)

/-! ### Texts -/

theorem smallLetters_cons (before cs : List Char) (c : Char) :
    smallLetters before (c :: cs) =
      (if c.toNat = 0x3a3 then
        [Char.ofNat (if startsCased before && !startsCased cs then 0x3c2 else 0x3c3)]
      else if c.toNat = 0x130 then ['i', Char.ofNat 0x307]
      else [smallLetter c]) ++ smallLetters (c :: before) cs := rfl

theorem mem_smallLetters {before cs : List Char} {c : Char} (hc : c ∈ cs)
    (hascii : c.toNat < 0x80) : smallLetter c ∈ smallLetters before cs := by
  induction cs generalizing before with
  | nil => cases hc
  | cons d cs ih =>
    rw [smallLetters_cons]
    rcases List.mem_cons.mp hc with rfl | hc
    · rw [if_neg (by omega), if_neg (by omega)]
      exact List.mem_append_left _ List.mem_cons_self
    · exact List.mem_append_right _ (ih hc)

theorem isSmall_of_mem_smallLetters {before cs : List Char} {c : Char}
    (hc : c ∈ smallLetters before cs) : isSmall c = true := by
  induction cs generalizing before with
  | nil => cases hc
  | cons d cs ih =>
    rw [smallLetters_cons] at hc
    rcases List.mem_append.mp hc with hc | hc
    · split at hc
      · obtain rfl := List.mem_singleton.mp hc
        split <;> decide +kernel
      split at hc
      · have hall : ['i', Char.ofNat 0x307].all isSmall = true := by decide +kernel
        exact List.all_eq_true.mp hall c hc
      · obtain rfl := List.mem_singleton.mp hc
        exact isSmall_smallLetter d
    · exact ih hc

theorem eq_of_smallLetters_eq {before cs small : List Char} (hsmall : ∀ c ∈ cs, isSmall c = true)
    (hascii : ∀ c ∈ small, c.toNat < 0x80) (heq : smallLetters before cs = small) : cs = small := by
  induction cs generalizing before small with
  | nil => exact heq
  | cons c cs ih =>
    rw [smallLetters_cons] at heq
    split at heq
    · subst heq
      have hlast := hascii _ List.mem_cons_self
      split at hlast <;> exact absurd hlast (by decide)
    split at heq
    · subst heq
      exact absurd (hascii _ (List.mem_cons_of_mem _ List.mem_cons_self)) (by decide)
    · obtain rfl := heq
      have hself := smallLetter_eq_self (hsmall c List.mem_cons_self) (hascii _ List.mem_cons_self)
      have hrest := ih (fun d hd => hsmall d (List.mem_cons_of_mem _ hd))
        (fun d hd => hascii d (List.mem_cons_of_mem _ hd)) rfl
      exact List.cons_eq_cons.mpr ⟨hself.symm, hrest⟩

/-- An underscore is neither a letter nor passed over, so no word goes on after it. -/
theorem startsCased_append_underscore (cs : List Char) :
    startsCased (cs ++ ['_']) = startsCased cs := by
  induction cs with
  | nil => decide +kernel
  | cons c cs ih =>
    rw [startsCased, startsCased, List.cons_append, List.dropWhile_cons, List.dropWhile_cons]
    cases isCaseIgnorable c with
    | true => exact ih
    | false => rfl

theorem smallLetters_append_underscore (before cs : List Char) :
    smallLetters before (cs ++ ['_']) = smallLetters before cs ++ ['_'] := by
  induction cs generalizing before with
  | nil => rfl
  | cons c cs ih =>
    rw [List.cons_append, smallLetters_cons, smallLetters_cons, ih, startsCased_append_underscore,
      List.append_assoc]

/-- **A character of ASCII goes to its small form**, whatever surrounds it. -/
theorem mem_lowercase {s : String} {c : Char} (hc : c ∈ s.toList) (hascii : c.toNat < 0x80) :
    smallLetter c ∈ (lowercase s).toList := by
  rw [lowercase, String.toList_ofList]
  exact mem_smallLetters hc hascii

/-- **An underscore at the end changes nothing.** -/
theorem lowercase_append_underscore (s : String) : lowercase (s ++ "_") = lowercase s ++ "_" := by
  rw [lowercase, String.toList_append]
  exact (congrArg String.ofList (smallLetters_append_underscore [] s.toList)).trans
    (String.ofList_append ..)

/-- **The characters of a text in small letters are small.** -/
theorem isSmall_of_mem_lowercase {s : String} {c : Char} (hc : c ∈ (lowercase s).toList) :
    isSmall c = true := by
  rw [lowercase, String.toList_ofList] at hc
  exact isSmall_of_mem_smallLetters hc

/-- **Of small characters, only a text in ASCII itself has it as small form.** -/
theorem eq_of_lowercase_eq {s small : String} (hsmall : ∀ c ∈ s.toList, isSmall c = true)
    (hascii : ∀ c ∈ small.toList, c.toNat < 0x80) (heq : lowercase s = small) : s = small := by
  have hlist : smallLetters [] s.toList = small.toList := by
    rw [← heq, lowercase, String.toList_ofList]
  exact String.toList_inj.mp (eq_of_smallLetters_eq hsmall hascii hlist)

end InterestMux
