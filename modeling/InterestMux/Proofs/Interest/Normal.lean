import InterestMux.Proofs.Interest.Union

/-!
# Normal forms

A normalized union is in normal form, whatever it is made of: unions put together by hand, nested
to any depth, with constant filters and empty unions in them. It matches what one of its operands
matches, under every valuation of the atoms. Both facts come from the leaves of the operands: a
leaf is `all` or an atom, and an interest matches if one of its leaves does.

The leaves need not be listed first. `Interest.collectAll?` goes through the operands once, keeps a
set of what it finds, and stops at the first `all`; this comes to the same.

## Main definitions

* `Valuation`, `Interest.holds` : which atoms match, and which interests then do.
* `Interest.IsNormal` : a constant filter, an atom, or a set of at least two atoms.
* `Interest.Within` : an interest occurs in another one, at any depth.
* `Interest.collectAll?` : the union in one pass.

## Main results

* `Interest.mem_leaves` : the leaves of an interest are what occurs in it and is `all` or an atom.
* `Interest.holds_iff` : an interest matches if one of its leaves does.
* `Interest.unionAll_normalizes` : a normalized union is in normal form and matches what its
  operands match.
* `Interest.unionAll_eq_collectAll?` : it can be found in one pass.
-/

namespace InterestMux

/-- Which of the atoms match. -/
structure Valuation where
  application : String → Bool
  vip : String → Bool
  instanceId : String → Bool

namespace Interest

mutual

/-- The interest matches under a valuation of the atoms. -/
def holds (v : Valuation) : Interest → Bool
  | empty => false
  | all => true
  | application name => v.application name
  | vip address => v.vip address
  | instanceId id => v.instanceId id
  | union xs => holdsAny v xs

/-- One of the interests matches. -/
def holdsAny (v : Valuation) : List Interest → Bool
  | [] => false
  | x :: xs => holds v x || holdsAny v xs

end

/-- The interest is one in an application, in a virtual address or in an instance. -/
def isAtom : Interest → Bool
  | application _ | vip _ | instanceId _ => true
  | _ => false

/-- A constant filter, an atom, or a set of at least two atoms. -/
inductive IsNormal : Interest → Prop
  | empty : IsNormal empty
  | all : IsNormal all
  | atom {x : Interest} (hatom : x.isAtom = true) : IsNormal x
  | union {xs : List Interest} (hatoms : ∀ x ∈ xs, x.isAtom = true) (hset : xs.Pairwise IsLess)
    (htwo : 2 ≤ xs.length) : IsNormal (union xs)

/-- An interest is the other one, or occurs in one of its members. -/
inductive Within (x : Interest) : Interest → Prop
  | self : Within x x
  | member {y : Interest} {ys : List Interest} (hy : y ∈ ys) (hx : Within x y) :
    Within x (union ys)

variable {v : Valuation} {x y : Interest} {xs : List Interest}

theorem holdsAny_iff : holdsAny v xs = true ↔ ∃ x ∈ xs, x.holds v = true := by
  induction xs with
  | nil => simp [holdsAny]
  | cons x xs ih => simp [holdsAny, ih]

theorem within_union_iff {ys : List Interest} :
    Within x (union ys) ↔ x = union ys ∨ ∃ y ∈ ys, Within x y := by
  constructor
  · intro h
    cases h with
    | self => exact .inl rfl
    | member hy hx => exact .inr ⟨_, hy, hx⟩
  · rintro (rfl | ⟨y, hy, hx⟩)
    · exact .self
    · exact .member hy hx

theorem within_iff_of_leaf (hx : x = all ∨ x.isAtom = true) : Within y x ↔ y = x := by
  constructor
  · rintro (_ | ⟨_, _⟩)
    · rfl
    · simp [isAtom] at hx
  · rintro rfl
    exact .self

/-! ### Leaves -/

mutual

/-- **The leaves of an interest are what occurs in it and is `all` or an atom.** -/
theorem mem_leaves : ∀ {x : Interest}, y ∈ leaves x ↔ Within y x ∧ (y = all ∨ y.isAtom = true)
  | empty => by
    constructor
    · intro h
      cases h
    · rintro ⟨_ | _, h⟩
      simp [isAtom] at h
  | union xs => by
    rw [leaves, mem_leavesOf_iff, within_union_iff]
    constructor
    · rintro ⟨hwithin, hleaf⟩
      exact ⟨.inr hwithin, hleaf⟩
    · rintro ⟨rfl | hwithin, hleaf⟩
      · simp [isAtom] at hleaf
      · exact ⟨hwithin, hleaf⟩
  | all => by
    rw [within_iff_of_leaf (.inl rfl)]
    simp +contextual [leaves]
  | application _ | vip _ | instanceId _ => by
    rw [within_iff_of_leaf (.inr rfl)]
    simp +contextual [leaves, isAtom]

theorem mem_leavesOf_iff : ∀ {xs : List Interest},
    y ∈ leavesOf xs ↔ (∃ x ∈ xs, Within y x) ∧ (y = all ∨ y.isAtom = true)
  | [] => by simp [leavesOf]
  | x :: xs => by
    rw [leavesOf, List.mem_append, mem_leaves, mem_leavesOf_iff, List.exists_mem_cons_iff,
      or_and_right]

end

mutual

/-- **An interest matches if one of its leaves does.** -/
theorem holds_iff : ∀ {x : Interest}, x.holds v = true ↔ ∃ leaf ∈ leaves x, leaf.holds v = true
  | empty => by simp [holds, leaves]
  | union xs => by rw [holds, leaves, holdsAny_iff_leavesOf]
  | all | application _ | vip _ | instanceId _ => by simp [leaves]

theorem holdsAny_iff_leavesOf : ∀ {xs : List Interest},
    holdsAny v xs = true ↔ ∃ leaf ∈ leavesOf xs, leaf.holds v = true
  | [] => by simp [holdsAny, leavesOf]
  | x :: xs => by
    rw [holdsAny, Bool.or_eq_true, holds_iff, holdsAny_iff_leavesOf, leavesOf]
    simp [or_and_right, exists_or]

end

/-! ### Normalized unions -/

/-- The normalized union of atoms, given as a set: none is `empty`, one stands alone. -/
def ofAtoms : List Interest → Interest
  | [] => empty
  | [x] => x
  | members => union members

theorem isNormal_ofAtoms (hatoms : ∀ x ∈ xs, x.isAtom = true) (hset : xs.Pairwise IsLess) :
    IsNormal (ofAtoms xs) := by
  match xs with
  | [] => exact .empty
  | [x] => exact .atom (hatoms x List.mem_cons_self)
  | x :: y :: ys => exact .union hatoms hset (by simp)

theorem holds_ofAtoms : (ofAtoms xs).holds v = true ↔ ∃ x ∈ xs, x.holds v = true := by
  match xs with
  | [] => simp [ofAtoms, holds]
  | [x] => simp [ofAtoms]
  | x :: y :: ys => exact holdsAny_iff

theorem ofAtoms_ne_all (hatoms : ∀ x ∈ xs, x.isAtom = true) : ofAtoms xs ≠ all := by
  match xs with
  | [] | _ :: _ :: _ => simp [ofAtoms]
  | [x] =>
    rintro rfl
    cases hatoms all List.mem_cons_self

/-- A normalized union is `all` if this is one of the leaves, and otherwise the union of the leaves,
which are atoms. -/
theorem unionAll_eq (xs : List Interest) :
    unionAll xs = if all ∈ leavesOf xs then all else ofAtoms (sorted (leavesOf xs)) := by
  rw [unionAll]
  split
  · rfl
  · unfold ofAtoms
    rfl

theorem isAtom_of_mem_sorted (hall : all ∉ leavesOf xs) (hx : x ∈ sorted (leavesOf xs)) :
    x.isAtom = true := by
  rw [mem_sorted] at hx
  refine (mem_leavesOf_iff.mp hx).2.resolve_left ?_
  rintro rfl
  exact hall hx

theorem isNormal_unionAll (xs : List Interest) : IsNormal (unionAll xs) := by
  rw [unionAll_eq]
  split
  · exact .all
  · rename_i hall
    exact isNormal_ofAtoms (fun x => isAtom_of_mem_sorted hall) (ascending_sorted _)

theorem holds_unionAll : (unionAll xs).holds v = true ↔ ∃ x ∈ xs, x.holds v = true := by
  rw [← holdsAny_iff, holdsAny_iff_leavesOf, unionAll_eq]
  split
  · rename_i hall
    exact iff_of_true rfl ⟨all, hall, rfl⟩
  · simp only [holds_ofAtoms, mem_sorted]

theorem unionAll_eq_all_iff : unionAll xs = all ↔ ∃ x ∈ xs, Within all x := by
  have hleaves : all ∈ leavesOf xs ↔ ∃ x ∈ xs, Within all x := by simp [mem_leavesOf_iff]
  rw [← hleaves, unionAll_eq]
  split
  · rename_i hall
    exact iff_of_true rfl hall
  · rename_i hall
    exact iff_of_false (ofAtoms_ne_all fun x => isAtom_of_mem_sorted hall) hall

/-! ### One pass -/

mutual

/-- Adds the leaves of an interest to a set, from left to right; nothing if `all` is reached. -/
def collect? (set : List Interest) : Interest → Option (List Interest)
  | empty => some set
  | all => none
  | union xs => collectAll? set xs
  | x => some (insert x set)

/-- Adds the leaves of all members of a list to a set; nothing if `all` is reached. -/
def collectAll? (set : List Interest) : List Interest → Option (List Interest)
  | [] => some set
  | x :: xs => (collect? set x).bind fun set => collectAll? set xs

end

mutual

theorem collect?_eq (set : List Interest) : ∀ x : Interest,
    collect? set x =
      if all ∈ leaves x then none else some ((leaves x).foldl (fun set x => insert x set) set)
  | empty | all | application _ | vip _ | instanceId _ => by simp [collect?, leaves]
  | union xs => by rw [collect?, leaves, collectAll?_eq]

theorem collectAll?_eq (set : List Interest) : ∀ xs : List Interest,
    collectAll? set xs =
      if all ∈ leavesOf xs then none
      else some ((leavesOf xs).foldl (fun set x => insert x set) set)
  | [] => by simp [collectAll?, leavesOf]
  | x :: xs => by
    rw [collectAll?, collect?_eq set x, leavesOf]
    by_cases hx : all ∈ leaves x
    · simp [hx]
    · rw [if_neg hx, Option.bind_some, collectAll?_eq, List.foldl_append]
      simp [hx]

end

/-- **One pass is enough.** The operands are gone through once, with a set of the atoms found so
far; the first `all` ends the search, whatever was found before. -/
theorem unionAll_eq_collectAll? (xs : List Interest) :
    unionAll xs = ((collectAll? [] xs).map ofAtoms).getD all := by
  rw [unionAll_eq, collectAll?_eq]
  split
  · rfl
  · rfl

/-! ### What a normalized union is -/

/-- **A normalized union is in normal form and matches what its operands match**, under every
valuation of the atoms. One `all` in an operand, at any depth, absorbs everything. -/
theorem unionAll_normalizes (xs : List Interest) :
    IsNormal (unionAll xs) ∧
      (∀ v, (unionAll xs).holds v = true ↔ ∃ x ∈ xs, x.holds v = true) ∧
      (unionAll xs = all ↔ ∃ x ∈ xs, Within all x) :=
  ⟨isNormal_unionAll xs, fun _ => holds_unionAll, unionAll_eq_all_iff⟩

end Interest

end InterestMux
