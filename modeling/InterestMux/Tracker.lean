import InterestMux.Interest.Text
import InterestMux.Journal
import InterestMux.Watch

/-!
# The interest tracker

A tracker counts the live registrations of each interest and publishes the normalized union of
the interests that have one. It publishes a union only if it differs from the one before.

## Main definitions

* `Tracker.append`, `Tracker.remove?`
* `Tracker.countOf`, `Tracker.total`, `Tracker.union`
-/

namespace InterestMux

/-- The number of live registrations for each interest that has any. -/
abbrev Tally := List (Interest × Nat)

namespace Tally

/-- One more registration. -/
def increase (i : Interest) : Tally → Tally
  | [] => [(i, 1)]
  | (j, n) :: rest => if j = i then (j, n + 1) :: rest else (j, n) :: increase i rest

/-- One registration less, or nothing if there is none. -/
def decrease? (i : Interest) : Tally → Option Tally
  | [] => none
  | (j, n) :: rest =>
    if j = i then some (if n ≤ 1 then rest else (j, n - 1) :: rest)
    else (decrease? i rest).map ((j, n) :: ·)

/-- The number of registrations for an interest. -/
def countOf (i : Interest) : Tally → Nat
  | [] => 0
  | (j, n) :: rest => if j = i then n else countOf i rest

/-- The number of all registrations. -/
def total (t : Tally) : Nat :=
  (t.map (·.2)).foldr (· + ·) 0

/-- The normalized union of all interests with a registration. -/
def union (t : Tally) : Interest :=
  Interest.unionAll (t.map (·.1))

end Tally

/-- Live registrations, and the union that was published last. -/
structure Tracker where
  tally : Tally := []
  published : Watch Interest := ⟨.empty, 0⟩
deriving Inhabited

namespace Tracker

/-- Publishes the union of the live registrations if it is not the one published last. -/
def publish (t : Tracker) : Tracker :=
  if t.published.value = t.tally.union then t
  else { t with published := t.published.publish t.tally.union }

/-- Adds one registration. -/
def append (t : Tracker) (i : Interest) : Tracker :=
  publish { t with tally := t.tally.increase i }

/-- Removes one registration, or answers nothing if there is none. -/
def remove? (t : Tracker) (i : Interest) : Option Tracker :=
  (t.tally.decrease? i).map fun tally => publish { t with tally }

/-- Removes one registration if there is one. -/
def remove (t : Tracker) (i : Interest) : Tracker :=
  (t.remove? i).getD t

/-- The number of live registrations for an interest. -/
def countOf (t : Tracker) (i : Interest) : Nat :=
  t.tally.countOf i

/-- The number of live registrations. -/
def total (t : Tracker) : Nat :=
  t.tally.total

/-- The union published last. -/
def union (t : Tracker) : Interest :=
  t.published.value

/-- The union published between two states of a tracker, if there was a publication. -/
def announced? (before after : Tracker) : Option Interest :=
  if before.published.version = after.published.version then none else some after.union

/-- The journal entry for the publication of a union. -/
def entry (union : Interest) : Entry :=
  ⟨.debug, "interest union changed", [("union", union.text)]⟩

end Tracker

end InterestMux
