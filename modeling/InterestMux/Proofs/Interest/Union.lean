import InterestMux.Proofs.Interest.Order
import Mathlib.Data.List.Nodup

/-!
# Unions depend on members only

`Interest.sorted` turns any list into the one ascending list of its members, so a normalized union
does not depend on the order in which its operands come nor on how often they come.

## Main results

* `Interest.ascending_iff` : a list is ascending if every member is less than all later ones.
* `Interest.mem_sorted`, `Interest.ascending_sorted` : what `sorted` answers.
* `Interest.sorted_eq_of_mem_iff` : the sorted list is fixed by its members.
* `Interest.unionAll_eq_of_mem_iff` : so is the normalized union.
-/

namespace InterestMux.Interest

/-! ### Ascending lists -/

/-- The first of two interests is less than the second. -/
abbrev IsLess (x y : Interest) : Prop := compare x y = .lt

theorem IsLess.trans {x y z : Interest} (hxy : IsLess x y) (hyz : IsLess y z) : IsLess x z :=
  Std.TransCmp.lt_trans hxy hyz

theorem ascending_iff : ∀ xs : List Interest, ascending xs = true ↔ xs.Pairwise IsLess
  | [] | [_] => by simp [ascending]
  | x :: y :: ys => by
    simp only [ascending, Bool.and_eq_true, beq_iff_eq, ascending_iff (y :: ys)]
    constructor
    · rintro ⟨hxy, hys⟩
      refine hys.cons fun z hz => ?_
      rcases List.mem_cons.mp hz with rfl | hz
      · exact hxy
      · exact IsLess.trans hxy (List.rel_of_pairwise_cons hys hz)
    · intro h
      exact ⟨List.rel_of_pairwise_cons h List.mem_cons_self, h.of_cons⟩

theorem mem_insert {x y : Interest} {ys : List Interest} :
    y ∈ insert x ys ↔ y = x ∨ y ∈ ys := by
  induction ys with
  | nil => simp [insert]
  | cons z ys ih =>
    rw [insert]
    cases h : compare x z with
    | lt => exact List.mem_cons
    | eq => simp [eq_of_compare_eq h]
    | gt => rw [List.mem_cons, ih, List.mem_cons, or_left_comm]

theorem ascending_insert (x : Interest) : ∀ {ys : List Interest},
    ys.Pairwise IsLess → (insert x ys).Pairwise IsLess
  | [], _ => List.pairwise_singleton _ _
  | y :: ys, hys => by
    rw [insert]
    cases h : compare x y with
    | lt =>
      refine hys.cons fun z hz => ?_
      rcases List.mem_cons.mp hz with rfl | hz
      · exact h
      · exact IsLess.trans h (List.rel_of_pairwise_cons hys hz)
    | eq => exact hys
    | gt =>
      refine (ascending_insert x hys.of_cons).cons fun z hz => ?_
      rcases mem_insert.mp hz with rfl | hz
      · exact Std.OrientedCmp.lt_of_gt h
      · exact List.rel_of_pairwise_cons hys hz

/-! ### Sorting -/

/-- Members are put into a set one after another, so what is shown for `insert` holds along. -/
theorem foldl_insert_spec (xs set : List Interest) (hset : set.Pairwise IsLess) :
    (xs.foldl (fun set x => insert x set) set).Pairwise IsLess ∧
      ∀ y, y ∈ xs.foldl (fun set x => insert x set) set ↔ y ∈ xs ∨ y ∈ set := by
  induction xs generalizing set with
  | nil => simp [hset]
  | cons x xs ih =>
    obtain ⟨hasc, hmem⟩ := ih (insert x set) (ascending_insert x hset)
    refine ⟨hasc, fun y => ?_⟩
    rw [List.foldl_cons, hmem, mem_insert, List.mem_cons, or_assoc, or_left_comm]

theorem ascending_sorted (xs : List Interest) : (sorted xs).Pairwise IsLess :=
  (foldl_insert_spec xs [] .nil).1

@[simp] theorem mem_sorted {xs : List Interest} {y : Interest} : y ∈ sorted xs ↔ y ∈ xs := by
  simpa [sorted] using (foldl_insert_spec xs [] .nil).2 y

theorem nodup_of_ascending {xs : List Interest} (h : xs.Pairwise IsLess) : xs.Nodup :=
  h.imp fun {x y} hxy heq => by
    subst heq
    rw [IsLess, compare_self] at hxy
    cases hxy

theorem eq_of_ascending {xs ys : List Interest} (hxs : xs.Pairwise IsLess)
    (hys : ys.Pairwise IsLess) (h : ∀ x, x ∈ xs ↔ x ∈ ys) : xs = ys := by
  have hperm : xs.Perm ys :=
    (List.perm_ext_iff_of_nodup (nodup_of_ascending hxs) (nodup_of_ascending hys)).mpr h
  refine hperm.eq_of_pairwise (fun x y _ _ hxy hyx => ?_) hxs hys
  have hxx := IsLess.trans hxy hyx
  rw [IsLess, compare_self] at hxx
  cases hxx

/-- **A set has one sorted form.** Lists with the same members sort to the same list, in whatever
order and number their members come. -/
theorem sorted_eq_of_mem_iff {xs ys : List Interest} (h : ∀ x, x ∈ xs ↔ x ∈ ys) :
    sorted xs = sorted ys :=
  eq_of_ascending (ascending_sorted xs) (ascending_sorted ys) fun x => by simp [h x]

/-! ### Normalized unions -/

theorem mem_leavesOf {leaf : Interest} {xs : List Interest} :
    leaf ∈ leavesOf xs ↔ ∃ x ∈ xs, leaf ∈ leaves x := by
  induction xs with
  | nil => simp [leavesOf]
  | cons x xs ih => simp [leavesOf, ih]

/-- **A normalized union depends on the members of its list only.** -/
theorem unionAll_eq_of_mem_iff {xs ys : List Interest} (h : ∀ x, x ∈ xs ↔ x ∈ ys) :
    unionAll xs = unionAll ys := by
  have hleaves : ∀ leaf, leaf ∈ leavesOf xs ↔ leaf ∈ leavesOf ys := fun leaf => by
    simp only [mem_leavesOf, h]
  rw [unionAll, unionAll, sorted_eq_of_mem_iff hleaves]
  simp only [hleaves]

end InterestMux.Interest
