import InterestMux.Journal
import InterestMux.Lifecycle
import InterestMux.Watch

/-!
# The lifecycle follower

The follower reports the lifecycle states of a connection, those that it gets to see, until one is
terminal or it is told to stop.
-/

namespace InterestMux

namespace Follower

/-- Where the follower waits. -/
inductive Wait where
  /-- It has not run yet. -/
  | spawned
  /-- For a state that it has not seen. -/
  | watching
  /-- It is over. -/
  | finished
deriving DecidableEq, Inhabited

end Follower

/-- The state of the follower between two steps. -/
structure Follower where
  /-- The version of the state seen last. -/
  seen : Nat := 0
  wait : Follower.Wait := .spawned
deriving DecidableEq, Inhabited

namespace Follower

/-- The follower is not over. -/
def isRunning (f : Follower) : Bool :=
  f.wait != .finished

/-- Reports the current state. A terminal state is the last. -/
def report (lifecycle : Watch ConnectionState) : Follower × Option ConnectionState :=
  let wait := if lifecycle.value.isTerminal then .finished else .watching
  ({ seen := lifecycle.version, wait }, some lifecycle.value)

/-- How the follower leaves its waiting point, with the state that it reports, if any. -/
def notice? (f : Follower) (stopped : Bool) (lifecycle : Watch ConnectionState)
    (publishing : Bool) : Option (Follower × Option ConnectionState) :=
  match f.wait with
  | .spawned => some (report lifecycle)
  | .watching =>
    if stopped then some ({ f with wait := .finished }, none)
    else if lifecycle.changedSince f.seen then some (report lifecycle)
    else if publishing then none
    else some ({ f with wait := .finished }, none)
  | .finished => none

/-- The journal entry for a reported state. -/
def entry : ConnectionState → Entry
  | .backoff attempt _ reason =>
    ⟨.debug, "interest channel reconnecting",
      [("attempt", toString attempt.toNat), ("reason", reason)]⟩
  | .exhausted attempts =>
    ⟨.warn, "interest channel gave up; open streams are now stale",
      [("attempts", toString attempts.toNat)]⟩
  | .closed => ⟨.info, "interest channel closed", []⟩
  | state => ⟨.debug, "interest channel lifecycle", [("state", state.text)]⟩

end Follower

end InterestMux
