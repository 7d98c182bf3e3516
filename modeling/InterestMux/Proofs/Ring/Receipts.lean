import InterestMux.Ring

/-!
# What an observer receives

An observer of a ring either receives the next announcement, or learns how many it has lost and
goes on with the oldest one that is kept. In both cases it comes nearer to the end by as many
announcements as the receipt accounts for, and it finds nothing only at the end.

## Main definitions

* `Receipt.count` : how many announcements a receipt accounts for.
* `Ring.Receives` : what an observer receives, and where it stands then.

## Main results

* `Ring.receives_of_receive?` : what is received is one of the two.
* `Ring.Receives.eq_add_count` : a receipt accounts for the way that it leads.
* `Ring.receive?_eq_none` : there is nothing to receive exactly at the end.
-/

namespace InterestMux

variable {α : Type}

/-- How many announcements an observer has behind it with a receipt. -/
def Receipt.count : Receipt α → Nat
  | .item _ => 1
  | .lagged lost => lost

namespace Ring

/-- What an observer receives that has `cursor` announcements behind it, and where it stands
then. -/
inductive Receives (r : Ring α) (cursor : Nat) : Receipt α → Nat → Prop
  | item {value : α} (hvalue : r.announced[cursor]? = some value) :
    Receives r cursor (.item value) (cursor + 1)
  | lagged (hbehind : cursor + r.capacity < r.tail) :
    Receives r cursor (.lagged (r.tail - r.capacity - cursor)) (r.tail - r.capacity)

variable {r : Ring α} {cursor cursor' : Nat} {receipt : Receipt α}

theorem receives_of_receive? (h : r.receive? cursor = some (receipt, cursor')) :
    Receives r cursor receipt cursor' := by
  rw [receive?] at h
  split at h
  · rename_i hbehind
    obtain ⟨rfl, rfl⟩ := Prod.mk.inj (Option.some.inj h)
    exact .lagged hbehind
  · split at h
    · rename_i value hvalue
      obtain ⟨rfl, rfl⟩ := Prod.mk.inj (Option.some.inj h)
      exact .item hvalue
    · cases h

/-- A receipt leads on by as many announcements as it accounts for, and not beyond the end. -/
theorem Receives.eq_add_count (h : Receives r cursor receipt cursor') :
    cursor' = cursor + receipt.count ∧ cursor < cursor' ∧ cursor' ≤ r.tail := by
  cases h with
  | item hvalue =>
    obtain ⟨hlt, -⟩ := List.getElem?_eq_some_iff.mp hvalue
    exact ⟨rfl, Nat.lt_succ_self cursor, hlt⟩
  | lagged hbehind =>
    simp only [Receipt.count]
    omega

theorem receive?_eq_none : r.receive? cursor = none ↔ r.tail ≤ cursor := by
  rw [receive?]
  split
  · rename_i hbehind
    simp only [reduceCtorEq, false_iff]
    omega
  · rw [tail, ← List.getElem?_eq_none_iff]
    split <;> simp_all

theorem getLast?_of_getElem? {value : α} (hvalue : r.announced[cursor]? = some value)
    (hend : cursor + 1 = r.tail) : r.announced.getLast? = some value := by
  rw [List.getLast?_eq_getElem?, ← hvalue, ← tail, ← hend, Nat.add_sub_cancel]

theorem powerFrom_pos {power n fuel : Nat} (h : 0 < power) : 0 < powerFrom power n fuel := by
  induction fuel generalizing power with
  | zero => exact h
  | succ fuel ih =>
    rw [powerFrom]
    split
    · exact h
    · exact ih (Nat.mul_pos Nat.two_pos h)

theorem capacity_create_pos (requested : Nat) : 0 < (create requested : Ring α).capacity :=
  powerFrom_pos Nat.one_pos

end Ring

end InterestMux
