import InterestMux.Channel
import InterestMux.Journal
import InterestMux.Ring

/-!
# The evictor

When a channel is announced, registry entries that came over earlier channels are stale. The
evictor waits for announcements and asks the registry to evict everything that the newest channel
did not bring, one round at a time. Announcements that pile up during a round are skipped but for
the newest, and a channel without a source has no round.

## Main definitions

* `Evictor`, `Evictor.Event`
* `Evictor.notice?` : how the evictor leaves its waiting point.
* `Evictor.answer` : what it does when the registry answers.
-/

namespace InterestMux

namespace Evictor

/-- Where the evictor waits. -/
inductive Wait where
  /-- For an announcement. -/
  | listening
  /-- For the end of a round. -/
  | evicting (source : Source)
  /-- It is over. -/
  | finished
deriving DecidableEq, Inhabited

/-- What the evictor does. -/
inductive Event where
  /-- It finds that announcements are lost. -/
  | lagged (lost : Nat)
  /-- It takes an announcement and skips earlier ones. -/
  | taken (c : Channel) (skipped : Nat)
  /-- The channel has no source, so there is no round. -/
  | sourceless (c : Channel)
  /-- A round begins. -/
  | began (source : Source)
  /-- A round ended and removed so many entries. -/
  | evicted (count : Nat) (source : Source)
  /-- A round failed. -/
  | failed (reason : Failure) (source : Source)
deriving DecidableEq, Inhabited

end Evictor

/-- The state of the evictor between two steps: where it waits, and how many announcements are
behind it. -/
structure Evictor where
  cursor : Nat
  wait : Evictor.Wait := .listening
deriving DecidableEq, Inhabited

namespace Evictor

/-- The result of a step. -/
abbrev Result := Evictor × List Event

/-- The evictor is not over. -/
def isRunning (e : Evictor) : Bool :=
  e.wait != .finished

/-- Goes on to a receipt from the channel received before it, with the count of those skipped so
far. A newer channel takes the place of the one before. -/
def skip (last : Channel × Nat) : Receipt Channel → Channel × Nat
  | .item newer => (newer, last.2 + 1)
  | .lagged lost => (last.1, last.2 + lost)

/-- Takes the newest announcement after one was received: the evictor receives until there is
nothing more, and skips all but the last. -/
def takeNewest (channels : Ring Channel) (received : Channel) (cursor : Nat) : Result :=
  let (receipts, cursor) := channels.drain cursor (channels.tail - cursor)
  let (newest, skipped) := receipts.foldl skip (received, 0)
  let e : Evictor := { cursor }
  let taken := Event.taken newest skipped
  match newest.source with
  | none => (e, [taken, .sourceless newest])
  | some source => ({ e with wait := .evicting source }, [taken, .began source])

/-- How the evictor leaves its waiting point: it stops if told to or if nothing can be announced
any more, and otherwise takes what is announced. -/
def notice? (e : Evictor) (stopped : Bool) (channels : Ring Channel) (announcing : Bool) :
    Option Result :=
  match e.wait with
  | .listening =>
    if stopped then some ({ e with wait := .finished }, [])
    else
      match channels.receive? e.cursor with
      | some (.lagged lost, cursor) => some ({ e with cursor }, [.lagged lost])
      | some (.item c, cursor) => some (takeNewest channels c cursor)
      | none => if announcing then none else some ({ e with wait := .finished }, [])
  | .evicting _ | .finished => none

/-- What the evictor does at the end of a round. -/
def answer (e : Evictor) (outcome : Except Failure Nat) : Result :=
  match e.wait, outcome with
  | .evicting source, .ok count => ({ e with wait := .listening }, [.evicted count source])
  | .evicting source, .error reason => ({ e with wait := .listening }, [.failed reason source])
  | _, _ => (e, [])

/-- The journal entry for an event, if it leaves one. -/
def Event.entry? : Event → Option Entry
  | .lagged lost =>
    some ⟨.warn, "eviction fell behind channel generations", [("skipped", toString lost)]⟩
  | .taken _ skipped =>
    if skipped = 0 then none
    else
      some ⟨.debug, "skipping eviction for superseded channel generations",
        [("superseded", toString skipped)]⟩
  | .sourceless _ =>
    some ⟨.debug, "new interest channel has no source, skipping eviction", []⟩
  | .began _ => none
  | .evicted count source =>
    some ⟨.info, "Evicted instances in one round of eviction due to a new interest channel",
      [("evicted", toString count), ("source", source.text)]⟩
  | .failed reason source =>
    some ⟨.warn, "Eviction round after a new interest channel failed",
      [("error", reason.message), ("source", source.text)]⟩

end Evictor

end InterestMux
