import InterestMux.Tracker

/-!
# Rehearsing a tracker

A tracker with observers of its union, and a caller who takes one step after another.
-/

namespace InterestMux

/-- A tracker and what its observers saw last. -/
structure TrackerRun where
  tracker : Tracker := {}
  /-- The version of the union that each observer saw last. -/
  observers : List Nat := []
deriving Inhabited

namespace TrackerRun

/-- What the caller does in one step. -/
inductive Step where
  | append (interest : Interest)
  | remove (interest : Interest)
  | count (interest : Interest)
  | observe
  | look (observer : Nat)

/-- What a step answers. -/
inductive Answer where
  | nothing
  | removed (found : Bool)
  | counted (n : Nat)
  | looked (fresh : Bool) (union : Interest)
  | noObserver

/-- What can be seen after a step. -/
structure Snapshot where
  answer : Answer
  union : Interest
  total : Nat
  /-- The registrations for the interest of the step, or else for the empty one. -/
  count : Nat
  entry : Option Entry

/-- The interest that a step is about. -/
def Step.interest : Step → Interest
  | append i | remove i | count i => i
  | observe | look _ => .empty

/-- One step of the caller. -/
def perform (r : TrackerRun) : Step → Answer × TrackerRun
  | .append i => (.nothing, { r with tracker := r.tracker.append i })
  | .remove i =>
    (.removed (r.tracker.remove? i).isSome, { r with tracker := r.tracker.remove i })
  | .count i => (.counted (r.tracker.countOf i), r)
  | .observe => (.nothing, { r with observers := r.observers ++ [r.tracker.published.version] })
  | .look k =>
    match r.observers[k]? with
    | some seen =>
      (.looked (r.tracker.published.changedSince seen) r.tracker.union,
        { r with observers := r.observers.set k r.tracker.published.version })
    | none => (.noObserver, r)

/-- The snapshots after steps. -/
def rehearse (r : TrackerRun) : List Step → List Snapshot
  | [] => []
  | step :: steps =>
    let (answer, after) := perform r step
    { answer
      union := after.tracker.union
      total := after.tracker.total
      count := after.tracker.countOf step.interest
      entry := (Tracker.announced? r.tracker after.tracker).map Tracker.entry }
      :: rehearse after steps

end TrackerRun

end InterestMux
