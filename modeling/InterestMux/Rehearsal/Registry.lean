import InterestMux.Handler.Stream
import InterestMux.Source

/-!
# A registry in memory

The registry holds instances in the order of their ids, each with its source. A subscription gets
the matching instances as additions and then every matching notification, without a bound on how
many wait to be read, until the registry stops.

## Main definitions

* `Instance`, `Interest.matches`
* `Registry.subscribe`, `Registry.register`, `Registry.emit`, `Registry.next?`
* `Registry.evict` : begins a round of eviction; `Registry.outcome?` is its end.
-/

namespace InterestMux

/-- A registered service instance. -/
structure Instance where
  id : String
  application : String
  vip : String
deriving DecidableEq, Inhabited

mutual

/-- The interest matches the instance. -/
def Interest.matches (x : Instance) : Interest → Bool
  | .empty => false
  | .all => true
  | .application name => x.application == name
  | .vip address => x.vip == address
  | .instanceId id => x.id == id
  | .union members => Interest.anyMatches x members

/-- One of the interests matches the instance. -/
def Interest.anyMatches (x : Instance) : List Interest → Bool
  | [] => false
  | i :: is => Interest.matches x i || Interest.anyMatches x is

end

/-- A subscription and what it has not read yet. -/
structure Subscription where
  interest : Interest
  queue : List (Notification Instance)
deriving Inhabited

/-- The state of the registry. -/
structure Registry where
  /-- Instances with their sources, in the order of their ids. -/
  entries : List (Instance × Source) := []
  subscriptions : List Subscription := []
  stopped : Bool := false
  /-- Rounds of eviction do not end. -/
  held : Bool := false
  /-- Why rounds of eviction fail, if they do. -/
  failing : Option Failure := none
  /-- The outcome of the round in progress. -/
  round : Option (Except Failure Nat) := none
deriving Inhabited

namespace Registry

/-- Puts an entry in its place by its id, instead of an entry of the same id. -/
def insert (entry : Instance × Source) : List (Instance × Source) → List (Instance × Source)
  | [] => [entry]
  | other :: rest =>
    match Ord.compare entry.1.id other.1.id with
    | .lt => entry :: other :: rest
    | .eq => entry :: rest
    | .gt => other :: insert entry rest

/-- Adds a subscription. A stopped registry has only what is there. -/
def subscribe (r : Registry) (interest : Interest) : Registry :=
  let found := r.entries.filter fun entry => interest.matches entry.1
  let queue := found.map fun entry => Notification.tagged ⟨.add, entry.1⟩ entry.2
  { r with subscriptions := r.subscriptions ++ [{ interest, queue }] }

/-- Sends a notification to the subscriptions that match it. -/
def emit (r : Registry) (n : Notification Instance) : Registry :=
  if r.stopped then r
  else
    { r with
      subscriptions := r.subscriptions.map fun s =>
        if s.interest.matches n.untag.data then { s with queue := s.queue ++ [n] } else s }

/-- Stores an instance and sends its addition, or its modification if it was there. -/
def register (r : Registry) (x : Instance) (source : Source) : Registry :=
  let kind := if r.entries.any fun entry => entry.1.id == x.id then .modify else .add
  { r with entries := insert (x, source) r.entries }.emit (.tagged ⟨kind, x⟩ source)

/-- Begins a round that removes all entries from other sources than the given one. -/
def evict (r : Registry) (source : Source) : Registry :=
  match r.failing with
  | some reason => { r with round := some (.error reason) }
  | none =>
    let stale := r.entries.filter fun entry => entry.2 != source
    let r := { r with
      entries := r.entries.filter fun entry => entry.2 == source
      round := some (.ok stale.length) }
    stale.foldl (fun r entry => r.emit (.tagged ⟨.delete, entry.1⟩ entry.2)) r

/-- The outcome of the round in progress, if it may end. A failed round is not held. -/
def outcome? (r : Registry) : Option (Except Failure Nat) :=
  match r.round with
  | some (.ok count) => if r.held then none else some (.ok count)
  | round => round

/-- What a subscription reads next: a notification, or their end; nothing if it has to wait. -/
def next? (r : Registry) (k : Nat) : Option (Option (Notification Instance) × Registry) :=
  match r.subscriptions[k]? with
  | some s =>
    match s.queue with
    | n :: queue =>
      some (some n, { r with subscriptions := r.subscriptions.set k { s with queue } })
    | [] => if r.stopped then some (none, r) else none
  | none => none

end Registry

end InterestMux
