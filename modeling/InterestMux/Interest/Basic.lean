/-!
# Interests

An interest is a filter over registered service instances. Besides the two constant filters and
the three atoms it has unions, which are sets: `Interest.setOf` sorts its members and drops
duplicates, by the total order `Interest.compare` (constructors in the order of their
declaration, texts by code point, unions lexicographically).

## Main definitions

* `Interest`, `Interest.compare`
* `Interest.setOf` : the union with the given members, as a set and otherwise unchanged.
* `Interest.unionAll` : the normalized union of a list of interests.
* `Interest.IsSet` : every union in the interest lists its members in strictly ascending order.
-/

namespace InterestMux

/-- A filter predicate over registered service instances. -/
inductive Interest where
  /-- Matches nothing. -/
  | empty
  /-- Matches every instance. -/
  | all
  /-- Matches the instances of one application. -/
  | application (name : String)
  /-- Matches the instances that advertise a virtual address. -/
  | vip (address : String)
  /-- Matches one instance. -/
  | instanceId (id : String)
  /-- Matches whatever one of the members matches. -/
  | union (members : List Interest)
deriving Inhabited

namespace Interest

/-! ### Order -/

/-- The position of the outermost constructor in the order. -/
def rank : Interest → Nat
  | empty => 0
  | all => 1
  | application _ => 2
  | vip _ => 3
  | instanceId _ => 4
  | union _ => 5

mutual

/-- Constructors in the order of their declaration, then texts by code point, then unions
lexicographically by their members. -/
def compare : Interest → Interest → Ordering
  | application s, application t => Ord.compare s t
  | vip s, vip t => Ord.compare s t
  | instanceId s, instanceId t => Ord.compare s t
  | union xs, union ys => compareMembers xs ys
  | x, y => Ord.compare x.rank y.rank

/-- The lexicographic order of member lists; a proper initial segment comes first. -/
def compareMembers : List Interest → List Interest → Ordering
  | [], [] => .eq
  | [], _ :: _ => .lt
  | _ :: _, [] => .gt
  | x :: xs, y :: ys => (compare x y).then (compareMembers xs ys)

end

instance : Ord Interest := ⟨compare⟩

/-- The interests in ascending order. Equal ones all stay. -/
def arranged (xs : List Interest) : List Interest :=
  xs.mergeSort fun x y => compare x y != .gt

mutual

/-- Structural equality. -/
def beq : Interest → Interest → Bool
  | empty, empty => true
  | all, all => true
  | application s, application t => s == t
  | vip s, vip t => s == t
  | instanceId s, instanceId t => s == t
  | union xs, union ys => beqMembers xs ys
  | _, _ => false

/-- Structural equality of member lists. -/
def beqMembers : List Interest → List Interest → Bool
  | [], [] => true
  | x :: xs, y :: ys => beq x y && beqMembers xs ys
  | _, _ => false

end

instance : BEq Interest := ⟨beq⟩

mutual

theorem eq_of_beq_true : ∀ {x y : Interest}, beq x y = true → x = y
  | empty, y, h => by cases y <;> simp_all [beq]
  | all, y, h => by cases y <;> simp_all [beq]
  | application _, y, h => by cases y <;> simp_all [beq]
  | vip _, y, h => by cases y <;> simp_all [beq]
  | instanceId _, y, h => by cases y <;> simp_all [beq]
  | union xs, y, h => by
    cases y with
    | union ys => exact congrArg union (eq_of_beqMembers (by simpa [beq] using h))
    | _ => simp [beq] at h

theorem eq_of_beqMembers : ∀ {xs ys : List Interest}, beqMembers xs ys = true → xs = ys
  | [], ys, h => by cases ys <;> simp_all [beqMembers]
  | x :: xs, ys, h => by
    cases ys with
    | nil => simp [beqMembers] at h
    | cons y ys =>
      simp only [beqMembers, Bool.and_eq_true] at h
      rw [eq_of_beq_true h.1, eq_of_beqMembers h.2]

end

mutual

theorem beq_self : ∀ x : Interest, beq x x = true
  | empty | all => rfl
  | application _ | vip _ | instanceId _ => by simp [beq]
  | union xs => by simpa [beq] using beqMembers_self xs

theorem beqMembers_self : ∀ xs : List Interest, beqMembers xs xs = true
  | [] => rfl
  | x :: xs => by simp [beqMembers, beq_self x, beqMembers_self xs]

end

instance : LawfulBEq Interest where
  eq_of_beq h := eq_of_beq_true h
  rfl := beq_self _

instance : DecidableEq Interest := instDecidableEqOfLawfulBEq

/-! ### Sets of interests -/

/-- Adds a member to an ascending list without duplicates. -/
def insert (x : Interest) : List Interest → List Interest
  | [] => [x]
  | y :: ys =>
    match compare x y with
    | .lt => x :: y :: ys
    | .eq => y :: ys
    | .gt => y :: insert x ys

/-- The ascending list of the distinct members of a list. -/
def sorted (xs : List Interest) : List Interest :=
  xs.foldl (fun set x => insert x set) []

/-- The union with exactly the given members. Nothing is flattened or absorbed. -/
def setOf (xs : List Interest) : Interest :=
  union (sorted xs)

/-- Each member of the list is less than its successor. -/
def ascending : List Interest → Bool
  | x :: y :: ys => compare x y == .lt && ascending (y :: ys)
  | _ => true

mutual

/-- Every union in the interest lists its members in strictly ascending order. -/
def isSet : Interest → Bool
  | union xs => ascending xs && areSets xs
  | _ => true

/-- `isSet` for all members of a list. -/
def areSets : List Interest → Bool
  | [] => true
  | x :: xs => isSet x && areSets xs

end

/-- The representation invariant: unions are sets at every depth. -/
abbrev IsSet (x : Interest) : Prop := x.isSet = true

/-! ### Unions -/

mutual

/-- The leaves of an interest other than `empty`, from left to right. -/
def leaves : Interest → List Interest
  | empty => []
  | union xs => leavesOf xs
  | x => [x]

/-- The leaves of all members of a list, from left to right. -/
def leavesOf : List Interest → List Interest
  | [] => []
  | x :: xs => leaves x ++ leavesOf xs

end

/-- The normalized union of a list: nested unions are flattened, `empty` vanishes and `all`
absorbs everything. No member leaves `empty`, a single member stands alone. -/
def unionAll (xs : List Interest) : Interest :=
  if all ∈ leavesOf xs then all
  else
    match sorted (leavesOf xs) with
    | [] => empty
    | [x] => x
    | members => union members

/-- The normalized union of two interests. -/
def join (x y : Interest) : Interest :=
  unionAll [x, y]

/-- The normalized union of the interests in single instances. -/
def instances (ids : List String) : Interest :=
  unionAll (ids.map instanceId)

/-- The interests a union is made of; any other interest but `empty` is its own only member. -/
def members : Interest → List Interest
  | empty => []
  | union xs => xs
  | x => [x]

/-- The interest is the constant filter that matches nothing. -/
def isEmpty : Interest → Bool
  | empty => true
  | _ => false

end Interest

end InterestMux
