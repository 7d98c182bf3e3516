import InterestMux.Proofs.Interest.Normal

/-!
# Unions are canonical

Two normalized unions are the same interest exactly if they match alike. A union that matches alike
has `all` among its leaves or not, which shows where no atom matches, and otherwise has the same
atoms, each of which shows where it is the only one to match. The laws of unions follow: what has to
be compared is what the operands match, and there they are laws of the disjunction.

## Main definitions

* `Valuation.only` : a single atom matches.
* `Interest.MatchAlike` : two lists of operands match alike, under every valuation.
* `Interest.UnionLaws` : the laws of unions.

## Main results

* `Interest.unionAll_eq_iff` : unions are equal exactly if their operands match alike.
* `Interest.unionAll_singleton_eq_iff` : a normal form is the union of itself, and no other interest
  is.
* `Interest.unionLaws` : unions obey the laws, on all interests.
-/

namespace InterestMux

/-- The given interest matches if it is an atom, and no other atom does. -/
def Valuation.only (x : Interest) : Valuation where
  application name := x == .application name
  vip address := x == .vip address
  instanceId id := x == .instanceId id

namespace Interest

variable {x y : Interest} {xs ys : List Interest}

/-! ### Telling interests apart -/

theorem holds_only (hatom : y.isAtom = true) : y.holds (.only x) = true ↔ x = y := by
  cases y with
  | application _ | vip _ | instanceId _ => exact beq_iff_eq
  | empty | all | union _ => simp [isAtom] at hatom

/-- One of the operands matches where a single atom does exactly if one of them matches everywhere
or has this atom. -/
theorem exists_holds_only :
    (∃ y ∈ xs, y.holds (.only x) = true) ↔
      all ∈ leavesOf xs ∨ x.isAtom = true ∧ x ∈ leavesOf xs := by
  rw [← holdsAny_iff, holdsAny_iff_leavesOf]
  constructor
  · rintro ⟨leaf, hleaf, hholds⟩
    rcases (mem_leavesOf_iff.mp hleaf).2 with rfl | hatom
    · exact .inl hleaf
    · obtain rfl := (holds_only hatom).mp hholds
      exact .inr ⟨hatom, hleaf⟩
  · rintro (hall | ⟨hatom, hx⟩)
    · exact ⟨all, hall, rfl⟩
    · exact ⟨x, hx, (holds_only hatom).mpr rfl⟩

/-- Two lists of operands match alike: under every valuation, either both or neither have an operand
that matches. -/
def MatchAlike (xs ys : List Interest) : Prop :=
  ∀ v : Valuation, (∃ x ∈ xs, x.holds v = true) ↔ ∃ y ∈ ys, y.holds v = true

theorem MatchAlike.all_mem_iff (alike : MatchAlike xs ys) :
    all ∈ leavesOf xs ↔ all ∈ leavesOf ys := by
  -- No atom matches under this valuation.
  have hnone := alike (.only empty)
  simpa [exists_holds_only, isAtom] using hnone

theorem MatchAlike.mem_leavesOf_iff (alike : MatchAlike xs ys) (hxs : all ∉ leavesOf xs)
    (hys : all ∉ leavesOf ys) : x ∈ leavesOf xs ↔ x ∈ leavesOf ys := by
  by_cases hatom : x.isAtom = true
  · have honly := alike (.only x)
    simpa [exists_holds_only, hxs, hys, hatom] using honly
  · -- The leaves are atoms.
    have hnot {zs : List Interest} (hzs : all ∉ leavesOf zs) : x ∉ leavesOf zs := fun hx => by
      rcases (Interest.mem_leavesOf_iff.mp hx).2 with rfl | hx'
      · exact hzs hx
      · exact hatom hx'
    exact iff_of_false (hnot hxs) (hnot hys)

/-- **Unions are equal exactly if their operands match alike.** -/
theorem unionAll_eq_iff : unionAll xs = unionAll ys ↔ MatchAlike xs ys := by
  constructor
  · intro h v
    rw [← holds_unionAll, h, holds_unionAll]
  · intro alike
    have hall := alike.all_mem_iff
    rw [unionAll_eq, unionAll_eq]
    by_cases hxs : all ∈ leavesOf xs
    · rw [if_pos hxs, if_pos (hall.mp hxs)]
    · have hys : all ∉ leavesOf ys := mt hall.mpr hxs
      rw [if_neg hxs, if_neg hys]
      exact congrArg ofAtoms (sorted_eq_of_mem_iff fun _ => alike.mem_leavesOf_iff hxs hys)

/-! ### Normal forms -/

theorem leavesOf_of_atoms (hatoms : ∀ x ∈ xs, x.isAtom = true) : leavesOf xs = xs := by
  induction xs with
  | nil => rfl
  | cons x xs ih =>
    have hleaves : leaves x = [x] := by
      have hatom := hatoms x List.mem_cons_self
      cases x with
      | application _ | vip _ | instanceId _ => rfl
      | empty | all | union _ => simp [isAtom] at hatom
    rw [leavesOf, hleaves, ih fun y hy => hatoms y (List.mem_cons_of_mem x hy)]
    rfl

theorem unionAll_of_atoms (hatoms : ∀ x ∈ xs, x.isAtom = true) :
    unionAll xs = ofAtoms (sorted xs) := by
  rw [unionAll_eq, leavesOf_of_atoms hatoms, if_neg]
  intro hall
  cases hatoms all hall

theorem sorted_of_ascending (hset : xs.Pairwise IsLess) : sorted xs = xs :=
  eq_of_ascending (ascending_sorted xs) hset fun _ => mem_sorted

/-- **A normal form is the union of itself, and no other interest is.** -/
theorem unionAll_singleton_eq_iff : unionAll [x] = x ↔ IsNormal x := by
  constructor
  · intro h
    exact h ▸ isNormal_unionAll [x]
  · rintro (_ | _ | hatom | ⟨hatoms, hset, htwo⟩)
    · rfl
    · rfl
    · exact unionAll_of_atoms fun y hy => List.mem_singleton.mp hy ▸ hatom
    · rename_i xs
      have hmembers : unionAll [union xs] = unionAll xs :=
        unionAll_eq_iff.mpr fun v => by simp [holds, holdsAny_iff]
      rw [hmembers, unionAll_of_atoms hatoms, sorted_of_ascending hset]
      match xs, htwo with
      | _ :: _ :: _, _ => rfl

/-! ### The laws of unions -/

theorem exists_mem_members_holds {v : Valuation} :
    (∃ y ∈ x.members, y.holds v = true) ↔ x.holds v = true := by
  cases x with
  | union xs => exact holdsAny_iff.symm
  | empty => simp [members, holds]
  | all | application _ | vip _ | instanceId _ => simp [members]

theorem join_self (x : Interest) : join x x = unionAll [x] :=
  unionAll_eq_iff.mpr fun v => by simp

/-- The laws of unions. They hold of all interests, in normal form or not. -/
structure UnionLaws : Prop where
  /-- Unions are equal exactly if their operands match alike. -/
  eq_iff : ∀ xs ys, unionAll xs = unionAll ys ↔ MatchAlike xs ys
  comm : ∀ x y, join x y = join y x
  assoc : ∀ x y z, join (join x y) z = join x (join y z)
  /-- The union of an interest with itself is equivalent to it: it is its normal form, -/
  self_eq : ∀ x, join x x = unionAll [x] ∧ MatchAlike [join x x] [x]
  /-- so the union of a union with itself is the same union, -/
  idem : ∀ xs, join (unionAll xs) (unionAll xs) = unionAll xs
  /-- and this holds of every normal form, and of nothing else. -/
  self_eq_iff : ∀ x, join x x = x ↔ IsNormal x
  append : ∀ xs ys, unionAll (xs ++ ys) = join (unionAll xs) (unionAll ys)
  /-- Neither the order nor the number of the operands matters, -/
  eq_of_mem_iff : ∀ xs ys, (∀ x, x ∈ xs ↔ x ∈ ys) → unionAll xs = unionAll ys
  /-- nor whether some of them, -/
  regroup : ∀ xs ys zs, unionAll (xs ++ unionAll ys :: zs) = unionAll (xs ++ ys ++ zs)
  /-- or all of them, are united in groups first, -/
  flatten : ∀ groups : List (List Interest),
    unionAll (groups.map unionAll) = unionAll groups.flatten
  /-- nor whether they come one by one or in a union that is put together by hand. -/
  members_eq : ∀ x, unionAll x.members = unionAll [x]

/-- **Unions are canonical.** Whatever their operands are, unions put together by hand and nested to
any depth included, unions are equal if and only if their operands match alike under every valuation
of the atoms. So the union is commutative, associative and idempotent, the union of an interest with
itself being its normal form, and the order, the number and the grouping of the operands do not
matter. -/
theorem unionLaws : UnionLaws := by
  constructor
  case eq_iff => exact fun xs ys => unionAll_eq_iff
  case comm => exact fun x y => unionAll_eq_iff.mpr fun v => by simp [or_comm]
  case assoc =>
    exact fun x y z => unionAll_eq_iff.mpr fun v => by simp [join, holds_unionAll, or_assoc]
  case self_eq => exact fun x => ⟨join_self x, fun v => by simp [join, holds_unionAll]⟩
  case idem => exact fun xs => unionAll_eq_iff.mpr fun v => by simp [holds_unionAll]
  case self_eq_iff =>
    intro x
    rw [join_self, unionAll_singleton_eq_iff]
  case append =>
    exact fun xs ys => unionAll_eq_iff.mpr fun v => by
      simp [holds_unionAll, or_and_right, exists_or]
  case eq_of_mem_iff => exact fun xs ys => unionAll_eq_of_mem_iff
  case regroup =>
    exact fun xs ys zs => unionAll_eq_iff.mpr fun v => by
      simp [holds_unionAll, or_and_right, exists_or]
  case flatten =>
    exact fun groups => unionAll_eq_iff.mpr fun v => by
      simp only [List.mem_map, List.mem_flatten, exists_exists_and_eq_and, holds_unionAll]
      tauto
  case members_eq =>
    exact fun x => unionAll_eq_iff.mpr fun v => by simp [exists_mem_members_holds]

end Interest

end InterestMux
