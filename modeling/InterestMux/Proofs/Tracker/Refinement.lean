import InterestMux.Proofs.Tracker.Registrations
import Mathlib.Data.List.Induction
import Mathlib.Data.Multiset.Replicate

/-!
# A tracker is a counted multiset

The callers of a tracker take turns, in any order, and each call adds a registration or removes
one. What a tracker tells of its registrations is what a multiset of interests would tell: the
number of times that an interest is in it, how many there are in all, and the normalized union of
its members. How the tracker came by its registrations, and in what order it keeps them, does not
show.

## Main definitions

* `Tracker.Call`, `Tracker.call` : what callers do, and whether it has an effect.
* `Tracker.after`, `Tracker.live` : the tracker after a list of calls, and the multiset that the
  calls leave.
* `Tracker.Refines` : a tracker tells what a multiset tells.

## Main results

* `Tracker.refines_after` : after any calls, the tracker refines the multiset that they leave.
-/

namespace InterestMux

namespace Tally

theorem IsProper.countOf_eq {t : Tally} (h : IsProper t) (i : Interest) :
    t.countOf i = (t.registrations : Multiset Interest).count i := by
  induction t with
  | nil => rfl
  | cons entry t ih =>
    obtain ⟨j, n⟩ := entry
    rw [countOf, registrations_cons, ← Multiset.coe_add, Multiset.count_add,
      Multiset.coe_replicate, Multiset.count_replicate]
    by_cases hji : j = i
    · subst hji
      -- The interest is not counted again further on.
      have hrest : j ∉ registrations t := fun hmem =>
        (List.nodup_cons.mp h.nodup).1 (h.tail.mem_registrations.mp hmem)
      rw [if_pos rfl, if_pos rfl, Multiset.count_eq_zero_of_notMem hrest]
      rfl
    · rw [if_neg hji, if_neg hji, ih h.tail, Nat.zero_add]

theorem total_eq_length (t : Tally) : t.total = t.registrations.length := by
  induction t with
  | nil => rfl
  | cons entry t ih =>
    rw [registrations_cons, List.length_append, List.length_replicate, ← ih]
    rfl

end Tally

namespace Tracker

/-- What a caller does with a tracker. -/
inductive Call where
  | append (i : Interest)
  | remove (i : Interest)

/-- The tracker after a call, and whether the call had an effect. To remove a registration has none
if there is no such registration. -/
def call (t : Tracker) : Call → Tracker × Bool
  | .append i => (t.append i, true)
  | .remove i =>
    match t.remove? i with
    | some t' => (t', true)
    | none => (t, false)

/-- A new tracker after calls of any callers, oldest first. -/
def after (calls : List Call) : Tracker :=
  calls.foldl (fun t c => (t.call c).1) {}

/-- What a call does to a multiset of interests. -/
def Call.change (m : Multiset Interest) : Call → Multiset Interest
  | .append i => i ::ₘ m
  | .remove i => m.erase i

/-- The registrations that calls leave, oldest call first. -/
def live (calls : List Call) : Multiset Interest :=
  calls.foldl Call.change 0

/-- The tracker tells of its registrations what the multiset tells of its members. -/
structure Refines (t : Tracker) (m : Multiset Interest) : Prop where
  countOf_eq : ∀ i, t.countOf i = m.count i
  total_eq : t.total = m.card
  /-- No count is zero, so no count is ever brought below zero. -/
  pos : ∀ entry ∈ t.tally, 0 < entry.2
  /-- The union is that of the members, in any order and number. -/
  union_eq : ∀ xs : List Interest, (∀ i, i ∈ xs ↔ i ∈ m) → t.union = Interest.unionAll xs
  /-- A registration can be removed exactly if there is one, -/
  removable : ∀ i, (t.call (.remove i)).2 = true ↔ i ∈ m
  /-- and then one registration of the interest is gone, and no other. -/
  removed : ∀ i ∈ m, ∀ j, (t.call (.remove i)).1.countOf j = (m.erase i).count j
  /-- Otherwise nothing changes, and nothing is published. -/
  unchanged : ∀ i, (t.call (.remove i)).2 = false → (t.call (.remove i)).1 = t

variable {t t' : Tracker} {xs : List Interest} {i : Interest}

theorem Holds.countOf_eq (h : Holds t xs) (i : Interest) :
    t.countOf i = (xs : Multiset Interest).count i := by
  rw [countOf, h.proper.countOf_eq, Multiset.coe_eq_coe.mpr h.registrations]

theorem Holds.total_eq (h : Holds t xs) : t.total = xs.length := by
  rw [total, Tally.total_eq_length]
  exact h.registrations.length_eq

/-- One registration more or less shows in the count of its interest and in the number of all. -/
theorem Holds.countOf_cons (h : Holds t (i :: xs)) (h' : Holds t' xs) :
    (∀ j, t.countOf j = t'.countOf j + if j = i then 1 else 0) ∧ t.total = t'.total + 1 := by
  refine ⟨fun j => ?_, ?_⟩
  · rw [h.countOf_eq, h'.countOf_eq, ← Multiset.cons_coe, Multiset.count_cons]
  · rw [h.total_eq, h'.total_eq, List.length_cons]

theorem Holds.call_remove (h : Holds t (i :: xs)) :
    (t.call (.remove i)).2 = true ∧ Holds (t.call (.remove i)).1 xs := by
  have hremove := h.remove
  have hmem : i ∈ t.tally.map (·.1) :=
    h.proper.mem_registrations.mp (h.registrations.mem_iff.mpr List.mem_cons_self)
  cases hdecrease : t.tally.decrease? i with
  | none => exact absurd hmem (Tally.decrease?_eq_none.mp hdecrease)
  | some tally =>
    rw [Tracker.remove, remove?, hdecrease] at hremove
    rw [call, remove?, hdecrease]
    exact ⟨rfl, hremove⟩

theorem Holds.remove?_eq (h : Holds t (i :: xs)) : t.remove? i = some (t.remove i) := by
  have hfound := h.call_remove.1
  rw [Tracker.call] at hfound
  cases hremove : t.remove? i with
  | none => simp [hremove] at hfound
  | some t' => rw [Tracker.remove, hremove, Option.getD_some]

theorem Holds.call_remove_of_notMem (h : Holds t xs) (hi : i ∉ xs) :
    t.call (.remove i) = (t, false) := by
  have hnone : t.tally.decrease? i = none :=
    Tally.decrease?_eq_none.mpr fun hmem =>
      hi (h.registrations.mem_iff.mp (h.proper.mem_registrations.mpr hmem))
  rw [call, remove?, hnone]
  rfl

/-- To remove a registration does to what is held what it does to a multiset, and shows whether
there was one. -/
theorem Holds.remove_spec (h : Holds t xs) (i : Interest) :
    ((t.call (.remove i)).2 = true ↔ i ∈ xs) ∧
      ((t.call (.remove i)).2 = false → (t.call (.remove i)).1 = t) ∧
      ∃ ys : List Interest, Holds (t.call (.remove i)).1 ys ∧
        (ys : Multiset Interest) = (xs : Multiset Interest).erase i := by
  by_cases hi : i ∈ xs
  · obtain ⟨ys, hperm⟩ : ∃ ys, xs.Perm (i :: ys) := ⟨_, List.perm_cons_erase hi⟩
    obtain ⟨hfound, hholds⟩ := (h.perm hperm).call_remove
    refine ⟨by simp [hfound, hi], fun hmissing => ?_, ys, hholds, ?_⟩
    · rw [hfound] at hmissing
      cases hmissing
    · rw [Multiset.coe_eq_coe.mpr hperm]
      exact (Multiset.erase_cons_head i (ys : Multiset Interest)).symm
  · rw [h.call_remove_of_notMem hi]
    refine ⟨by simp [hi], fun _ => rfl, xs, h, ?_⟩
    exact (Multiset.erase_of_notMem (Multiset.mem_coe.not.mpr hi)).symm

theorem Holds.refines (h : Holds t xs) : Refines t xs where
  countOf_eq := h.countOf_eq
  total_eq := by rw [h.total_eq, Multiset.coe_card]
  pos := h.proper.pos
  union_eq ys hys := by
    rw [h.union_eq]
    exact Interest.unionAll_eq_of_mem_iff fun j => (hys j).symm
  removable i := (h.remove_spec i).1
  removed i _ j := by
    obtain ⟨-, -, ys, hholds, hys⟩ := h.remove_spec i
    rw [hholds.countOf_eq, hys]
  unchanged i := (h.remove_spec i).2.1

theorem Holds.call (h : Holds t xs) (c : Call) :
    ∃ ys : List Interest, Holds (t.call c).1 ys ∧ (ys : Multiset Interest) = c.change xs := by
  cases c with
  | append i => exact ⟨i :: xs, h.append i, rfl⟩
  | remove i => exact (h.remove_spec i).2.2

theorem holds_after (calls : List Call) :
    ∃ xs : List Interest, Holds (after calls) xs ∧ (xs : Multiset Interest) = live calls := by
  induction calls using List.reverseRecOn with
  | nil => exact ⟨[], holds_empty, rfl⟩
  | append_singleton calls c ih =>
    obtain ⟨xs, hholds, hxs⟩ := ih
    rw [after, live, List.foldl_concat, List.foldl_concat, ← after, ← live, ← hxs]
    exact hholds.call c

/-- **A tracker is a counted multiset.** After any calls of any callers it tells of its
registrations what the multiset of the live registrations tells, and so it tells the same after any
other calls that leave the same multiset. -/
theorem refines_after (calls : List Call) :
    Refines (after calls) (live calls) ∧ ∀ calls', live calls' = live calls →
      (after calls').union = (after calls).union ∧ (after calls').total = (after calls).total ∧
        ∀ i, (after calls').countOf i = (after calls).countOf i := by
  have hrefines (calls : List Call) : Refines (after calls) (live calls) := by
    obtain ⟨xs, hholds, hxs⟩ := holds_after calls
    rw [← hxs]
    exact hholds.refines
  refine ⟨hrefines calls, fun calls' hsame => ?_⟩
  have first := hrefines calls
  have second := hrefines calls'
  rw [hsame] at second
  refine ⟨?_, ?_, fun i => ?_⟩
  · -- Any list of the live registrations gives the union of both.
    obtain ⟨xs, -, hxs⟩ := holds_after calls
    have hmem (i : Interest) : i ∈ xs ↔ i ∈ live calls := by rw [← hxs, Multiset.mem_coe]
    rw [first.union_eq xs hmem, second.union_eq xs hmem]
  · rw [first.total_eq, second.total_eq]
  · rw [first.countOf_eq, second.countOf_eq]

/-- A union that was put together by hand is counted apart from its only member, and adds nothing to
the published union. It does not matter which is registered first, nor what comes and goes in
between. -/
theorem refines_after_reordering :
    live [.append (.vip "a"), .append .all, .append (.union [.vip "a"]), .remove .all] =
        live [.append (.union [.vip "a"]), .remove .all, .append (.vip "a")] ∧
      (after [.append (.union [.vip "a"]), .remove .all, .append (.vip "a")]).union = .vip "a" ∧
      (after [.append (.vip "a"), .append .all, .append (.union [.vip "a"]), .remove .all]).union =
        (after [.append (.union [.vip "a"]), .remove .all, .append (.vip "a")]).union ∧
      (after [.append (.vip "a"), .append .all, .append (.union [.vip "a"]), .remove .all]).total =
        (after [.append (.union [.vip "a"]), .remove .all, .append (.vip "a")]).total := by
  have hsame : live [.append (.vip "a"), .append .all, .append (.union [.vip "a"]),
      .remove .all] = live [.append (.union [.vip "a"]), .remove .all, .append (.vip "a")] := by
    decide
  obtain ⟨hunion, htotal, -⟩ := (refines_after _).2 _ hsame
  exact ⟨hsame, rfl, hunion, htotal⟩

end Tracker

end InterestMux
