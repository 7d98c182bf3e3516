/-!
# Announcement rings

A ring announces values to any number of observers. It keeps all announcements in the model, and
an observer, who remembers how many of them are behind it, is told of at most `capacity` of the
latest: one that has fallen further behind loses the older ones.
-/

namespace InterestMux

/-- All announcements, oldest first, and how many of the latest can still be received. -/
structure Ring (α : Type) where
  capacity : Nat
  announced : List α := []
deriving DecidableEq, Inhabited

/-- What an observer gets when it asks for the next announcement. -/
inductive Receipt (α : Type) where
  /-- The next announcement. -/
  | item (value : α)
  /-- So many announcements are lost. -/
  | lagged (lost : Nat)
deriving DecidableEq, Inhabited

namespace Ring

variable {α : Type}

/-- The least power of two that is at least `n`, tried from `power` upward. -/
def powerFrom (power n : Nat) : Nat → Nat
  | 0 => power
  | fuel + 1 => if n ≤ power then power else powerFrom (2 * power) n fuel

/-- An empty ring. Its capacity is the requested one rounded up to a power of two. -/
def create (requested : Nat) : Ring α :=
  { capacity := powerFrom 1 requested 64 }

/-- Announces a value. -/
def announce (r : Ring α) (value : α) : Ring α :=
  { r with announced := r.announced ++ [value] }

/-- Where an observer starts that is told of later announcements only. -/
def tail (r : Ring α) : Nat :=
  r.announced.length

/-- What an observer gets that has `cursor` announcements behind it, and where it stands then;
nothing if it has all of them behind it. -/
def receive? (r : Ring α) (cursor : Nat) : Option (Receipt α × Nat) :=
  if cursor + r.capacity < r.tail then
    some (.lagged (r.tail - r.capacity - cursor), r.tail - r.capacity)
  else
    match r.announced[cursor]? with
    | some value => some (.item value, cursor + 1)
    | none => none

/-- Everything that an observer gets until there is nothing more, at most `fuel` receipts. -/
def drain (r : Ring α) (cursor : Nat) : Nat → List (Receipt α) × Nat
  | 0 => ([], cursor)
  | fuel + 1 =>
    match r.receive? cursor with
    | some (receipt, cursor) =>
      let (receipts, cursor) := r.drain cursor fuel
      (receipt :: receipts, cursor)
    | none => ([], cursor)

@[simp] theorem tail_announce (r : Ring α) (value : α) :
    (r.announce value).tail = r.tail + 1 := by
  simp [tail, announce]

@[simp] theorem capacity_announce (r : Ring α) (value : α) :
    (r.announce value).capacity = r.capacity := rfl

end Ring

end InterestMux
