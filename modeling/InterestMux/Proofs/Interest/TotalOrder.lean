import InterestMux.Proofs.Interest.Canonical
import InterestMux.Proofs.Text.ByteOrder

/-!
# The laws of the order

`Interest.compare` is a total order that tells different interests apart, and it is the one
described: by kind, then by the bytes of a text, and unions by their members, the first that differ.
Sets of interests are lists that ascend in this order, so a set has one form only.

## Main definitions

* `Interest.OrderLaws` : the laws of the order, and what it compares.

## Main results

* `Interest.compareMembers_eq_lt_iff` : member lists are ordered by the first members that differ.
* `Interest.orderLaws` : the order obeys the laws, on all interests.
-/

namespace InterestMux.Interest

/-- Member lists are ordered by the first members that differ. -/
theorem compareMembers_eq_lt_iff {xs ys : List Interest} :
    compareMembers xs ys = .lt ↔ List.Lex IsLess xs ys := by
  induction xs generalizing ys with
  | nil => cases ys <;> simp [compareMembers]
  | cons x xs ih =>
    cases ys with
    | nil => simp [compareMembers]
    | cons y ys =>
      rw [compareMembers_cons, Ordering.then_eq_lt, ih, List.cons_lex_cons_iff,
        Std.LawfulEqCmp.compare_eq_iff_eq]

/-- The order of interests is lawful, and compares what it is described to compare. -/
structure OrderLaws : Prop where
  antisymm : ∀ x y, (compare x y).isLE → (compare y x).isLE → x = y
  trans : ∀ x y z, (compare x y).isLE → (compare y z).isLE → (compare x z).isLE
  total : ∀ x y, (compare x y).isLE ∨ (compare y x).isLE
  /-- To exchange the interests reverses the answer. -/
  swap : ∀ x y, compare y x = (compare x y).swap
  eq_iff : ∀ x y, compare x y = .eq ↔ x = y
  /-- Interests of different kinds are ordered by kind. -/
  kinds : ∀ name address id xs,
    [empty, all, application name, vip address, instanceId id, union xs].Pairwise IsLess
  /-- Atoms of one kind are ordered by the bytes of their texts. -/
  atoms : ∀ s t, (IsLess (application s) (application t) ↔ Utf8.bytes s < Utf8.bytes t) ∧
    (IsLess (vip s) (vip t) ↔ Utf8.bytes s < Utf8.bytes t) ∧
    (IsLess (instanceId s) (instanceId t) ↔ Utf8.bytes s < Utf8.bytes t)
  /-- Unions are ordered by the first members that differ. -/
  unions : ∀ xs ys, IsLess (union xs) (union ys) ↔ List.Lex IsLess xs ys
  /-- To insert interests one after another makes an ascending list of them without duplicates. -/
  sorts : ∀ xs, (sorted xs).Pairwise IsLess ∧ (sorted xs).Nodup ∧ ∀ x, x ∈ sorted xs ↔ x ∈ xs
  /-- There is no other ascending list of the same interests. -/
  unique : ∀ xs set, set.Pairwise IsLess → (∀ x, x ∈ set ↔ x ∈ xs) → set = sorted xs
  /-- In which order and how often interests are inserted does not matter. -/
  inserted : ∀ xs ys, (∀ x, x ∈ xs ↔ x ∈ ys) → setOf xs = setOf ys

/-- **The order of interests is a lawful total order**, at any depth of nesting, and sets have one
sorted form. -/
theorem orderLaws : OrderLaws where
  antisymm _ _ := eq_of_isLE_of_isLE
  trans _ _ _ := isLE_trans
  total x y := by
    rw [compare_swap y x]
    cases compare x y <;> simp
  swap x y := compare_swap y x
  eq_iff _ _ := Std.LawfulEqCmp.compare_eq_iff_eq
  kinds _ _ _ _ := by
    simp only [List.pairwise_cons, List.mem_cons, forall_eq_or_imp]
    exact ⟨⟨rfl, rfl, rfl, rfl, rfl, nofun⟩, ⟨rfl, rfl, rfl, rfl, nofun⟩, ⟨rfl, rfl, rfl, nofun⟩,
      ⟨rfl, rfl, nofun⟩, ⟨rfl, nofun⟩, nofun, .nil⟩
  atoms s t := by
    have hatoms := Utf8.compare_eq_lt_iff (s := s) (t := t)
    exact ⟨hatoms, hatoms, hatoms⟩
  unions xs ys := compareMembers_eq_lt_iff
  sorts xs := ⟨ascending_sorted xs, nodup_of_ascending (ascending_sorted xs), fun _ => mem_sorted⟩
  unique xs set hset hmem := by
    rw [sorted_eq_of_mem_iff fun x => (hmem x).symm, sorted_of_ascending hset]
  inserted xs ys h := congrArg union (sorted_eq_of_mem_iff h)

end InterestMux.Interest
