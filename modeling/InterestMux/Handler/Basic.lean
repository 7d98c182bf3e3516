import InterestMux.Connection.Basic
import InterestMux.Handler.Evictor
import InterestMux.Handler.Follower
import InterestMux.Handler.Stream
import InterestMux.Metrics
import InterestMux.Settings.Basic
import InterestMux.Tracker

/-!
# Interest handlers

A handler multiplexes the interests of its subscribers over one connection. Each subscriber
registers an interest and gets a stream; the tracker publishes the union of the interests, which
is the operand of the connection; the evictor, the lifecycle follower and one forwarder for each
stream run beside the connection's loop.

The functions here are the atomic steps of a handler: what its callers do, and how each of its
tasks goes from one waiting point to the next. In what order the steps come, and what the
collaborators answer, is left open.

## Main definitions

* `Handler.build`, `Handler.subscribe`, `Handler.dropStream`, `Handler.poll`
* `Handler.shutdown`, `Handler.finishShutdown?`, `Handler.drop`
* `Handler.noticeLoop?`, `Handler.answerLoop`, `Handler.noticeEvictor?`, `Handler.answerEvictor`,
  `Handler.noticeFollower?`, `Handler.noticeForwarder?`, `Handler.pull`
* `Handler.Event` : what a step does, in order.
-/

namespace InterestMux

/-- A request that a bounded resource cannot be made for. It breaks the caller down. -/
inductive Breakdown where
  /-- A ring without room. -/
  | emptyRing
  /-- A ring of more than half the address space. -/
  | hugeRing
  /-- A buffer with more room than can be counted. -/
  | hugeBuffer
deriving DecidableEq, Repr, Inhabited

namespace Breakdown

/-- The greatest capacity of a ring. -/
def ringLimit : Nat := UInt64.size / 2 - 1

/-- The greatest capacity of a buffer. -/
def bufferLimit : Nat := UInt64.size / 8 - 1

/-- The text of a breakdown. -/
def message : Breakdown → String
  | emptyRing => "broadcast channel capacity cannot be zero"
  | hugeRing => "broadcast channel capacity exceeded \x60usize::MAX / 2\x60"
  | hugeBuffer =>
    "a semaphore may not have more than MAX_PERMITS permits (2305843009213693951)"

/-- Why no ring of the capacity can be made, if so. -/
def ofRing? (capacity : Nat) : Option Breakdown :=
  if capacity = 0 then some emptyRing
  else if ringLimit < capacity then some hugeRing
  else none

/-- Why no buffer of the capacity can be made, if so. -/
def ofBuffer? (capacity : Nat) : Option Breakdown :=
  if bufferLimit < capacity then some hugeBuffer else none

end Breakdown

namespace Handler

/-- How far the shutdown of a handler has come. -/
inductive Phase where
  | running
  /-- The reconnect loop is to end. -/
  | closing
  | down
deriving DecidableEq, Repr, Inhabited

/-- What a step of a handler does. -/
inductive Event where
  /-- A step of the reconnect loop did something. -/
  | connection (e : Loop.Event Interest)
  /-- A step of the evictor did something. -/
  | eviction (e : Evictor.Event)
  /-- The follower reports a state. -/
  | reported (state : ConnectionState)
  /-- The tracker published a union. -/
  | united (union : Interest)
  /-- The registry is asked for the notifications of an interest. -/
  | queried (interest : Interest)
  /-- A subscription was opened. -/
  | subscribed (stream : Nat) (interest : Interest)
  /-- A subscription was refused. -/
  | refused
  /-- A shutdown began. -/
  | shuttingDown
  /-- The reconnect loop turned out to have broken down. -/
  | loopCrashed
  /-- The registry is told to shut down. -/
  | registryShutDown
deriving Inhabited

/-- What a subscriber gets for an interest. -/
inductive Subscription where
  /-- The stream with the number. -/
  | opened (stream : Nat)
  | refused (reason : Failure)
  | broke (cause : Breakdown)
deriving Inhabited

/-- Why no handler could be built. -/
inductive BuildFault where
  | invalid (fault : SettingsFault)
  | broke (cause : Breakdown)
deriving DecidableEq, Inhabited

end Handler

/-- The state of a handler between two steps. -/
structure Handler (α : Type) where
  tracker : Tracker := {}
  connection : Connection Interest
  evictor : Evictor
  follower : Follower := {}
  /-- All streams ever handed out. -/
  streams : List (Stream α) := []
  /-- The capacity of the buffer of a new stream. -/
  streamBuffer : Nat
  phase : Handler.Phase := .running
  /-- The evictor and the follower are to stop. -/
  stopped : Bool := false
  /-- The handler is dropped. -/
  dropped : Bool := false
  metrics : Option Metrics := none
deriving Inhabited

namespace Handler

variable {α : Type}

/-- The result of a step. -/
abbrev Result (α : Type) := Handler α × List Event

/-! ### Metrics -/

/-- What an event records. -/
def Event.recordings : Event → List (Instrument × Nat)
  | .connection (.established _ _) => [(.channelGenerations, 1)]
  | .connection (.scheduled _ _ _) => [(.channelReconnects, 1)]
  | .eviction (.evicted count _) => [(.evictedInstances, count)]
  | .eviction (.failed _ _) => [(.evictionFailures, 1)]
  | .subscribed _ _ => [(.subscriptionsOpened, 1)]
  | .refused => [(.subscriptionsRejected, 1)]
  | _ => []

/-- Records what the events of a step record, if the handler has metrics. -/
def measure (h : Handler α) (events : List Event) : Handler α :=
  { h with metrics := h.metrics.map fun m =>
      (events.flatMap Event.recordings).foldl (fun m r => m.record r.1 r.2) m }

/-- The result of a step, with the metrics brought up to date. -/
def finish (h : Handler α) (events : List Event) : Result α :=
  (h.measure events, events)

/-! ### Views -/

/-- A shutdown has begun. -/
def isShutDown (h : Handler α) : Bool :=
  h.phase != .running

/-- The union of the interests of the open streams, as published last. -/
def currentInterest (h : Handler α) : Interest :=
  h.tracker.union

/-- The number of open streams. -/
def registrationCount (h : Handler α) : Nat :=
  h.tracker.total

/-- The lifecycle state of the connection. -/
def connectionState (h : Handler α) : ConnectionState :=
  h.connection.lifecycle.value

/-- The current channel, if one is established. -/
def currentChannel (h : Handler α) : Option Channel :=
  h.connection.current

/-- Somebody may still publish lifecycle states and announce channels. -/
def isPublishing (h : Handler α) : Bool :=
  !h.dropped || h.connection.isRunning

/-- Replaces one stream. -/
def setStream (h : Handler α) (k : Nat) (s : Stream α) : Handler α :=
  { h with streams := h.streams.set k s }

/-! ### Callers -/

/-- A handler for the settings, with its tasks about to run. -/
def build (settings : Settings) (metrics : Option Metrics) : Except BuildFault (Handler α) :=
  match settings.validate with
  | .error fault => .error (.invalid fault)
  | .ok _ =>
    match Breakdown.ofRing? settings.channelHistory.toNat with
    | some cause => .error (.broke cause)
    | none =>
      let connection : Connection Interest :=
        { channels := .create settings.channelHistory.toNat }
      .ok {
        connection := connection.start settings.retryPolicy
        evictor := { cursor := connection.channels.tail }
        streamBuffer := settings.streamBuffer.toNat
        metrics }

/-- What the tracker does to the union, as an event. -/
def unionEvents (before after : Tracker) : List Event :=
  (Tracker.announced? before after).toList.map .united

/-- Opens a stream for an interest. The interest is registered before the registry is asked, and
that before the buffer is made; if no buffer can be made the registration is taken back. -/
def subscribe (h : Handler α) (i : Interest) : Result α × Subscription :=
  if h.isShutDown then (h.finish [.refused], .refused .shutDown)
  else
    let registered := h.tracker.append i
    let events := unionEvents h.tracker registered ++ [.queried i]
    match Breakdown.ofBuffer? h.streamBuffer with
    | some cause =>
      let withdrawn := registered.remove i
      (({ h with tracker := withdrawn }).finish (events ++ unionEvents registered withdrawn),
        .broke cause)
    | none =>
      let k := h.streams.length
      let stream : Stream α :=
        { interest := i, capacity := h.streamBuffer, forwarder := { seen := 0 } }
      (({ h with tracker := registered, streams := h.streams ++ [stream] }).finish
        (events ++ [Event.subscribed k i]), .opened k)

/-- Gives a stream up, and its registration with it. -/
def dropStream (h : Handler α) (k : Nat) : Result α :=
  match h.streams[k]? with
  | some s =>
    if s.held then
      let tracker := h.tracker.remove s.interest
      ({ h with tracker }.setStream k s.drop).finish (unionEvents h.tracker tracker)
    else (h, [])
  | none => (h, [])

/-- What the subscriber of a stream gets without waiting. -/
def poll (h : Handler α) (k : Nat) : Poll α × Handler α :=
  match h.streams[k]? with
  | some s =>
    let (p, s) := s.poll
    (p, h.setStream k s)
  | none => (.ended, h)

/-- Begins the shutdown. Only the first call does anything. -/
def shutdown (h : Handler α) : Result α :=
  if h.isShutDown then (h, [])
  else
    ({ h with phase := .closing, connection := h.connection.close.1 }).finish [.shuttingDown]

/-- Completes the shutdown once the loop is over: the other tasks are to stop, and the registry is
shut down. -/
def finishShutdown? (h : Handler α) : Option (Result α) :=
  if h.phase = .closing ∧ h.connection.isRunning = false then
    let crash := if h.connection.isCrashed then [Event.loopCrashed] else []
    some (({ h with phase := .down, stopped := true }).finish (crash ++ [Event.registryShutDown]))
  else none

/-- Drops the handler without waiting for anything. Its streams stay. -/
def drop (h : Handler α) : Handler α :=
  { h with dropped := true, stopped := true, connection := h.connection.cancel }

/-! ### Tasks -/

/-- What the reconnect loop does on account of what it sees; the tracker's union is its
operand. -/
def noticeLoop? (h : Handler α) (ended : Option SessionEnd) : Option (Result α) :=
  (h.connection.notice? h.tracker.published true ended).map fun (connection, events) =>
    ({ h with connection }).finish (events.map .connection)

/-- What the reconnect loop does with the answer to its call. -/
def answerLoop (h : Handler α) (r : Loop.Reply) : Result α :=
  let (connection, events) := h.connection.answer h.tracker.published r
  ({ h with connection }).finish (events.map .connection)

/-- How the evictor leaves its waiting point. -/
def noticeEvictor? (h : Handler α) : Option (Result α) :=
  (h.evictor.notice? h.stopped h.connection.channels h.isPublishing).map fun (evictor, events) =>
    ({ h with evictor }).finish (events.map .eviction)

/-- What the evictor does at the end of a round. -/
def answerEvictor (h : Handler α) (outcome : Except Failure Nat) : Result α :=
  let (evictor, events) := h.evictor.answer outcome
  ({ h with evictor }).finish (events.map .eviction)

/-- How the follower leaves its waiting point. -/
def noticeFollower? (h : Handler α) : Option (Result α) :=
  (h.follower.notice? h.stopped h.connection.lifecycle h.isPublishing).map
    fun (follower, state) => ({ h with follower }).finish (state.toList.map .reported)

/-- What a forwarder does on account of what it sees. -/
def noticeForwarder? (h : Handler α) (k : Nat) : Option (Handler α) :=
  h.streams[k]?.bind fun s =>
    (s.notice? h.connection.lifecycle h.isPublishing).map fun s => h.setStream k s

/-- A forwarder waits for the next notification of the registry. -/
def isSelecting (h : Handler α) (k : Nat) : Bool :=
  (h.streams[k]?.map Stream.isSelecting).getD false

/-- What a forwarder does with the next notification of the registry, or with their end. -/
def pull (h : Handler α) (k : Nat) (next : Option (Notification α)) : Handler α :=
  match h.streams[k]? with
  | some s => h.setStream k (s.pull next)
  | none => h

/-! ### Journal -/

/-- The journal entry for an event, if it leaves one. -/
def Event.entry? : Event → Option Entry
  | .connection e => e.entry?
  | .eviction e => e.entry?
  | .reported state => some (Follower.entry state)
  | .united union => some (Tracker.entry union)
  | .shuttingDown => some ⟨.info, "Shutting down InterestHandler", []⟩
  | .loopCrashed => some Loop.Event.crashEntry
  | .queried _ | .subscribed _ _ | .refused | .registryShutDown => none

end Handler

end InterestMux
