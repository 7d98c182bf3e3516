import InterestMux.Interest.Basic
import Mathlib.Tactic.ByContra

/-!
# The order of interests is a total order

`Interest.compare` orders interests by the rank of their constructors, atoms of one kind by their
texts, and unions lexicographically by their members, which are interests again. All facts are
therefore shown for interests and for member lists at once, by recursion on the first argument.

## Main results

* `Interest.compare_swap` : exchanging the arguments reverses the answer.
* `Interest.eq_of_compare_eq` : only an interest itself compares as equal to it.
* `Interest.isLE_trans` : the order is transitive.
* the instances `Std.TransCmp Interest.compare` and `Std.LawfulEqCmp Interest.compare`.
-/

namespace InterestMux.Interest

theorem compare_of_rank_ne {x y : Interest} (h : x.rank ≠ y.rank) :
    compare x y = Ord.compare x.rank y.rank := by
  cases x <;> cases y <;> first | rfl | exact absurd rfl h

theorem compareMembers_cons (x y : Interest) (xs ys : List Interest) :
    compareMembers (x :: xs) (y :: ys) = (compare x y).then (compareMembers xs ys) := by
  rw [compareMembers]

theorem rank_eq_of_compare_eq {x y : Interest} (h : compare x y = .eq) : x.rank = y.rank := by
  by_contra hne
  rw [compare_of_rank_ne hne] at h
  exact hne (Std.LawfulEqOrd.eq_of_compare h)

theorem rank_le_of_isLE {x y : Interest} (h : (compare x y).isLE) : x.rank ≤ y.rank := by
  by_cases heq : x.rank = y.rank
  · exact Nat.le_of_eq heq
  · rw [compare_of_rank_ne heq, Nat.isLE_compare] at h
    exact h

mutual

theorem compare_swap : ∀ x y : Interest, compare x y = (compare y x).swap
  | union xs, union ys => by
    rw [compare, compare]
    exact compareMembers_swap xs ys
  | x, y => by
    by_cases h : x.rank = y.rank
    · -- One kind, and no union on the left: a constant, or an atom with its text.
      cases x <;> cases y <;> first
        | rfl
        | exact Std.OrientedOrd.eq_swap
        | exact compareMembers_swap _ _
    · rw [compare_of_rank_ne h, compare_of_rank_ne (Ne.symm h)]
      exact Std.OrientedOrd.eq_swap

theorem compareMembers_swap : ∀ xs ys : List Interest,
    compareMembers xs ys = (compareMembers ys xs).swap
  | [], [] | [], _ :: _ | _ :: _, [] => rfl
  | x :: xs, y :: ys => by
    rw [compareMembers_cons, compareMembers_cons, Ordering.swap_then, ← compare_swap x y,
      ← compareMembers_swap xs ys]

end

mutual

theorem eq_of_compare_eq : ∀ {x y : Interest}, compare x y = .eq → x = y
  | union xs, union ys, h => by
    rw [compare] at h
    rw [eq_of_compareMembers_eq h]
  | x, y, h => by
    have hrank := rank_eq_of_compare_eq h
    cases x <;> cases y <;> first
      | cases hrank; done
      | rfl
      | exact congrArg _ (Std.LawfulEqOrd.eq_of_compare h)
      | exact congrArg _ (eq_of_compareMembers_eq h)

theorem eq_of_compareMembers_eq : ∀ {xs ys : List Interest},
    compareMembers xs ys = .eq → xs = ys
  | [], [], _ => rfl
  | [], _ :: _, h | _ :: _, [], h => nomatch h
  | x :: xs, y :: ys, h => by
    rw [compareMembers_cons, Ordering.then_eq_eq] at h
    rw [eq_of_compare_eq h.1, eq_of_compareMembers_eq h.2]

end

mutual

theorem compare_self : ∀ x : Interest, compare x x = .eq
  | empty | all => rfl
  | application _ | vip _ | instanceId _ => Std.ReflOrd.compare_self
  | union xs => by
    rw [compare]
    exact compareMembers_self xs

theorem compareMembers_self : ∀ xs : List Interest, compareMembers xs xs = .eq
  | [] => rfl
  | x :: xs => by rw [compareMembers_cons, compare_self x, compareMembers_self xs]; rfl

end

theorem eq_of_isLE_of_isLE {x y : Interest} (hxy : (compare x y).isLE)
    (hyx : (compare y x).isLE) : x = y := by
  rw [compare_swap y x] at hyx
  cases h : compare x y <;> rw [h] at hxy hyx
  · cases hyx
  · exact eq_of_compare_eq h
  · cases hxy

mutual

theorem isLE_trans : ∀ {x y z : Interest},
    (compare x y).isLE → (compare y z).isLE → (compare x z).isLE
  | union xs, union ys, union zs, hxy, hyz => by
    rw [compare] at hxy hyz ⊢
    exact isLEMembers_trans hxy hyz
  | x, y, z, hxy, hyz => by
    have hx := rank_le_of_isLE hxy
    have hy := rank_le_of_isLE hyz
    by_cases h : x.rank = z.rank
    · have hrank : x.rank = y.rank := Nat.le_antisymm hx (h ▸ hy)
      cases x <;> cases y <;> first
        | cases hrank; done
        | cases z <;> first
          | cases h; done
          | rfl
          | exact Std.TransOrd.isLE_trans hxy hyz
          | exact isLEMembers_trans hxy hyz
    · rw [compare_of_rank_ne h, Nat.isLE_compare]
      exact Nat.le_trans hx hy

theorem isLEMembers_trans : ∀ {xs ys zs : List Interest},
    (compareMembers xs ys).isLE → (compareMembers ys zs).isLE → (compareMembers xs zs).isLE
  | [], _, [], _, _ | [], _, _ :: _, _, _ => rfl
  | _ :: _, [], _, h, _ | _, _ :: _, [], _, h => nomatch h
  | x :: xs, y :: ys, z :: zs, hxy, hyz => by
    rw [compareMembers_cons, Ordering.isLE_then_iff_and] at hxy hyz ⊢
    have hxz := isLE_trans hxy.1 hyz.1
    refine ⟨hxz, ?_⟩
    by_cases hzx : (compare z x).isLE
    · -- All three heads are one, so the tails decide.
      obtain rfl := eq_of_isLE_of_isLE hxz hzx
      obtain rfl := eq_of_isLE_of_isLE hxy.1 hyz.1
      have hne : compare x x ≠ .lt := by rw [compare_self x]; decide
      exact .inr (isLEMembers_trans (hxy.2.resolve_left hne) (hyz.2.resolve_left hne))
    · rw [compare_swap z x] at hzx
      cases h : compare x z
      · exact .inl rfl
      all_goals rw [h] at hzx; exact absurd rfl hzx

end

instance : Std.OrientedCmp compare where
  eq_swap := compare_swap _ _

instance : Std.TransCmp compare where
  isLE_trans := isLE_trans

instance : Std.LawfulEqCmp compare where
  compare_self := compare_self _
  eq_of_compare := eq_of_compare_eq

end InterestMux.Interest
