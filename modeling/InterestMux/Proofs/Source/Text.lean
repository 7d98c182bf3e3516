import InterestMux.Source

/-!
# Printed sources

A source is printed as its origin, its name after a colon if it has one, and its number after a hash
sign. The name is not quoted: it may hold both signs and digits, and even the text of another
source. Still a text is that of one source only. No numeral has a hash sign in it, so the last one
begins the number; no origin has a colon in it, so the first one in front of the number, if there is
any, begins the name.

## Main definitions

* `Source.label` : what is printed in front of the number.

## Main results

* `cut_first_inj`, `cut_last_inj` : a list is cut in one way at the first or last place of an entry.
* `Numeral.numbered_inj` : a text that ends with a number after a hash sign ends with one only.
* `Source.text_inj` : the text of a source identifies it.
-/

namespace InterestMux

/-! ### Cuts -/

section Cut

variable {α : Type} {c : α} {xs ys xs' ys' : List α}

theorem cut_first_inj (h : xs ++ c :: ys = xs' ++ c :: ys') (hxs : c ∉ xs) (hxs' : c ∉ xs') :
    xs = xs' ∧ ys = ys' := by
  induction xs generalizing xs' with
  | nil =>
    cases xs' with
    | nil => exact ⟨rfl, List.tail_eq_of_cons_eq h⟩
    | cons x' xs' => exact absurd (List.head_eq_of_cons_eq h ▸ List.mem_cons_self) hxs'
  | cons x xs ih =>
    cases xs' with
    | nil => exact absurd (List.head_eq_of_cons_eq h ▸ List.mem_cons_self) hxs
    | cons x' xs' =>
      obtain ⟨rfl, hrest⟩ := List.cons.inj h
      obtain ⟨rfl, hys⟩ :=
        ih hrest (List.not_mem_of_not_mem_cons hxs) (List.not_mem_of_not_mem_cons hxs')
      exact ⟨rfl, hys⟩

theorem cut_last_inj (h : xs ++ c :: ys = xs' ++ c :: ys') (hys : c ∉ ys) (hys' : c ∉ ys') :
    xs = xs' ∧ ys = ys' := by
  have hreverse : ys.reverse ++ c :: xs.reverse = ys'.reverse ++ c :: xs'.reverse := by
    simpa using congrArg List.reverse h
  obtain ⟨hrest, hfront⟩ := cut_first_inj hreverse (by simpa using hys) (by simpa using hys')
  exact ⟨List.reverse_inj.mp hfront, List.reverse_inj.mp hrest⟩

end Cut

/-! ### Numerals -/

namespace Numeral

theorem toList_toString (n : Nat) : (toString n).toList = Nat.toDigits 10 n := by
  rw [Nat.toString_eq_repr, Nat.toList_repr]

theorem notMem_toString {c : Char} (hc : c.isDigit = false) (n : Nat) :
    c ∉ (toString n).toList := by
  intro hmem
  rw [toList_toString] at hmem
  have hdigit : c.isDigit = true := Nat.isDigit_of_mem_toDigits (by decide) (by decide) hmem
  rw [hc] at hdigit
  cases hdigit

theorem toString_inj {m n : Nat} : toString m = toString n ↔ m = n := by
  refine ⟨fun h => ?_, congrArg toString⟩
  have hdigits : Nat.toDigits 10 m = Nat.toDigits 10 n := by
    rw [← toList_toString, ← toList_toString, h]
  calc
    m = Nat.ofDigitChars 10 (Nat.toDigits 10 m) 0 := Nat.ofDigitChars_ten_toDigits.symm
    _ = Nat.ofDigitChars 10 (Nat.toDigits 10 n) 0 := by rw [hdigits]
    _ = n := Nat.ofDigitChars_ten_toDigits

/-- **A text that ends with a number after a hash sign ends with one only**, whatever stands in
front. -/
theorem numbered_inj {front front' : String} {m n : Nat}
    (h : front ++ "#" ++ toString m = front' ++ "#" ++ toString n) : front = front' ∧ m = n := by
  have hlist : front.toList ++ '#' :: (toString m).toList =
      front'.toList ++ '#' :: (toString n).toList := by
    simpa using congrArg String.toList h
  obtain ⟨hfront, hnumber⟩ :=
    cut_last_inj hlist (notMem_toString (by decide) m) (notMem_toString (by decide) n)
  exact ⟨String.toList_inj.mp hfront, toString_inj.mp (String.toList_inj.mp hnumber)⟩

theorem counted_inj {rest rest' : String} {m n : Nat}
    (h : toString m ++ " " ++ rest = toString n ++ " " ++ rest') : m = n ∧ rest = rest' := by
  have hlist : (toString m).toList ++ ' ' :: rest.toList =
      (toString n).toList ++ ' ' :: rest'.toList := by
    simpa using congrArg String.toList h
  obtain ⟨hnumber, hrest⟩ :=
    cut_first_inj hlist (notMem_toString (by decide) m) (notMem_toString (by decide) n)
  exact ⟨toString_inj.mp (String.toList_inj.mp hnumber), String.toList_inj.mp hrest⟩

end Numeral

/-! ### Sources -/

namespace Origin

theorem text_inj {o p : Origin} : o.text = p.text ↔ o = p := by
  cases o <;> cases p <;> decide

theorem colon_notMem_text (o : Origin) : ':' ∉ o.text.toList := by
  cases o <;> decide

end Origin

namespace Source

variable {s t : Source}

/-- What is printed in front of the number: the origin, and the name after a colon if there is
one. -/
def label (s : Source) : String :=
  match s.name with
  | some name => s.origin.text ++ ":" ++ name
  | none => s.origin.text

theorem text_eq (s : Source) : s.text = s.label ++ "#" ++ toString s.id.toNat := by
  rw [text, label]
  cases s.name <;> rfl

/-- Texts that end with sources end with the same number if they are equal. -/
theorem id_eq_of_append_text {front front' : String} (h : front ++ s.text = front' ++ t.text) :
    s.id = t.id := by
  rw [text_eq, text_eq, ← String.append_assoc, ← String.append_assoc, ← String.append_assoc,
    ← String.append_assoc] at h
  exact UInt64.toNat_inj.mp (Numeral.numbered_inj h).2

theorem toList_label_of_named {name : String} (h : s.name = some name) :
    s.label.toList = s.origin.text.toList ++ ':' :: name.toList := by
  simp [label, h]

theorem label_of_nameless (h : s.name = none) : s.label = s.origin.text := by
  rw [label, h]

theorem colon_mem_label : ':' ∈ s.label.toList ↔ s.name.isSome = true := by
  cases h : s.name with
  | none => simp [label_of_nameless h, Origin.colon_notMem_text]
  | some name => simp [toList_label_of_named h]

/-- **A label tells the origin and the name**, or that there is none. -/
theorem label_inj (h : s.label = t.label) : s.origin = t.origin ∧ s.name = t.name := by
  have hnamed : s.name.isSome = t.name.isSome := by
    rw [Bool.eq_iff_iff, ← colon_mem_label, ← colon_mem_label, h]
  cases hs : s.name with
  | none =>
    have ht : t.name = none := by simpa [hs] using hnamed.symm
    rw [label_of_nameless hs, label_of_nameless ht] at h
    exact ⟨Origin.text_inj.mp h, ht.symm⟩
  | some name =>
    obtain ⟨name', ht⟩ : ∃ name', t.name = some name' := by
      rw [← Option.isSome_iff_exists, ← hnamed, hs]
      rfl
    have hlist := congrArg String.toList h
    rw [toList_label_of_named hs, toList_label_of_named ht] at hlist
    obtain ⟨horigin, hname⟩ :=
      cut_first_inj hlist s.origin.colon_notMem_text t.origin.colon_notMem_text
    refine ⟨Origin.text_inj.mp (String.toList_inj.mp horigin), ?_⟩
    rw [ht, String.toList_inj.mp hname]

/-- **The text of a source identifies it.** -/
theorem text_inj : s.text = t.text ↔ s = t := by
  refine ⟨fun h => ?_, congrArg text⟩
  rw [text_eq, text_eq] at h
  obtain ⟨hlabel, hid⟩ := Numeral.numbered_inj h
  obtain ⟨horigin, hname⟩ := label_inj hlabel
  cases s
  cases t
  simp only [mk.injEq]
  exact ⟨horigin, hname, UInt64.toNat_inj.mp hid⟩

/-- A name may look like another source. -/
example : (⟨.interested, some "a#1:b", 2⟩ : Source).text = "interested:a#1:b#2" := by decide

end Source

end InterestMux
