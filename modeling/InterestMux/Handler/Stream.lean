import InterestMux.Failure
import InterestMux.Interest.Text
import InterestMux.Lifecycle
import InterestMux.Notification
import InterestMux.Watch

/-!
# Subscriber streams

A stream hands the changes of one interest to a subscriber. A forwarder takes notifications from
the registry, strips their sources and puts them into a buffer of fixed size, waiting for room
when the buffer is full. When the connection gives up, the forwarder adds one failure and ends.

## Main definitions

* `Forwarder`, `Stream`
* `Stream.notice?` : what the forwarder does on account of what it sees.
* `Stream.pull` : what it does with the next notification of the registry, or with their end.
* `Stream.poll`, `Stream.drop` : what the subscriber does.
-/

namespace InterestMux

/-- What a subscriber reads: a change, or the failure that ends the stream. -/
abbrev Delivery (α : Type) := Except Failure (Change α)

namespace Forwarder

/-- Where the forwarder waits. -/
inductive Wait (α : Type) where
  /-- It is about to look at the lifecycle. -/
  | looking
  /-- For the next notification. -/
  | selecting
  /-- For room for a delivery; the stream ends after it if it is a failure. -/
  | sending (delivery : Delivery α)
  /-- It is over. -/
  | finished
deriving Inhabited

end Forwarder

/-- The state of the forwarder between two steps. -/
structure Forwarder (α : Type) where
  /-- It still follows the lifecycle. -/
  watching : Bool := true
  /-- The version of the lifecycle state seen last. -/
  seen : Nat
  wait : Forwarder.Wait α := .looking
deriving Inhabited

/-- A stream with its forwarder. -/
structure Stream (α : Type) where
  interest : Interest
  /-- How many deliveries the buffer has room for. -/
  capacity : Nat
  buffer : List (Delivery α) := []
  /-- The subscriber has not dropped the stream. -/
  held : Bool := true
  forwarder : Forwarder α
deriving Inhabited

/-- What a subscriber gets from a stream without waiting. -/
inductive Poll (α : Type) where
  | ready (delivery : Delivery α)
  | pending
  | ended

namespace Forwarder

variable {α : Type}

/-- The forwarder is not over. -/
def isRunning (f : Forwarder α) : Bool :=
  match f.wait with
  | .finished => false
  | _ => true

/-- Ends the forwarder. -/
def finish (f : Forwarder α) : Forwarder α :=
  { f with wait := .finished }

/-- Looks at the lifecycle: an exhausted connection is delivered as a failure. -/
def look (f : Forwarder α) (lifecycle : Watch ConnectionState) : Forwarder α :=
  if f.watching then
    let f := { f with seen := lifecycle.version }
    match lifecycle.value with
    | .exhausted attempts => { f with wait := .sending (.error (.connectionExhausted attempts)) }
    | _ => { f with wait := .selecting }
  else { f with wait := .selecting }

end Forwarder

namespace Stream

variable {α : Type}

/-- Puts a delivery into the buffer. The forwarder goes on after a change and ends after a
failure. -/
def deliver (s : Stream α) (d : Delivery α) : Stream α :=
  let wait :=
    match d with
    | .ok _ => Forwarder.Wait.looking
    | .error _ => .finished
  { s with buffer := s.buffer ++ [d], forwarder := { s.forwarder with wait } }

/-- What the forwarder does on account of what it sees: the lifecycle, whether it may still
change, the buffer, and whether the stream is held. -/
def notice? (s : Stream α) (lifecycle : Watch ConnectionState) (publishing : Bool) :
    Option (Stream α) :=
  let f := s.forwarder
  match f.wait with
  | .looking => some { s with forwarder := f.look lifecycle }
  | .selecting =>
    if !s.held then some { s with forwarder := f.finish }
    else if f.watching && lifecycle.changedSince f.seen then
      some { s with forwarder := { f with seen := lifecycle.version, wait := .looking } }
    else if f.watching && !publishing then
      some { s with forwarder := { f with watching := false, wait := .looking } }
    else none
  | .sending d =>
    if !s.held then some { s with forwarder := f.finish }
    else if s.buffer.length < s.capacity then some (s.deliver d)
    else none
  | .finished => none

/-- The forwarder waits for the next notification of the registry. -/
def isSelecting (s : Stream α) : Bool :=
  match s.forwarder.wait with
  | .selecting => true
  | _ => false

/-- What the forwarder does with the next notification of the registry, or with their end. -/
def pull (s : Stream α) (next : Option (Notification α)) : Stream α :=
  match s.forwarder.wait, next with
  | .selecting, some n =>
    { s with forwarder := { s.forwarder with wait := .sending (.ok n.untag) } }
  | .selecting, none => { s with forwarder := s.forwarder.finish }
  | _, _ => s

/-- What the subscriber gets, and the stream without it. -/
def poll (s : Stream α) : Poll α × Stream α :=
  match s.buffer with
  | d :: rest => (.ready d, { s with buffer := rest })
  | [] => (if s.forwarder.isRunning then .pending else .ended, s)

/-- The subscriber gives the stream up. What is buffered is lost. -/
def drop (s : Stream α) : Stream α :=
  { s with held := false, buffer := [] }

/-- The description of a stream. -/
def detail (s : Stream α) : String :=
  "InterestStream \x7b interest: " ++ s.interest.detail ++ ", .. \x7d"

end Stream

end InterestMux
