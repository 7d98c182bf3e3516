import InterestMux.Channel
import InterestMux.Lifecycle
import InterestMux.Watch

/-!
# The reconnect loop

The loop obtains a channel, replays the latest operand on it, announces it, and then applies one
operand after another until the session ends, an operand is rejected, the operands have no
publisher any more, or the loop is cancelled. It releases the channel and, after a failure, tries
again for as long as the retry policy allows.

The loop always waits at one of a few points (`Wait`). It leaves a point either on account of what
it sees there itself (`Loop.notice?`: cancellation first, then the end of the session, then a new
operand) or with the answer to the call that it made on arriving there (`Loop.answer`). Both give
the loop at its next point and the events on the way.

## Main definitions

* `Loop.Wait`, `Loop`
* `Loop.Event` : everything that the loop does.
* `Loop.Sight`, `Loop.Reply` : what the loop sees, and what its calls answer.
* `Loop.notice?`, `Loop.answer`
-/

namespace InterestMux

namespace Loop

/-- Why the loop stops using a channel. -/
inductive Verdict where
  /-- The loop is to stop. -/
  | stopped
  /-- The channel failed. -/
  | failed (reason : Failure)
deriving DecidableEq, Inhabited

/-- Where the loop waits. -/
inductive Wait (T : Type) where
  /-- It has not run yet. -/
  | spawned
  /-- A channel is requested. -/
  | creating
  /-- The first operand is being applied to a channel that is not established. -/
  | replaying (c : Channel) (operand : T)
  /-- The established channel is idle, and the loop waits for the end of its session. -/
  | serving (c : Channel)
  /-- A later operand is being applied to the established channel. -/
  | applying (c : Channel) (operand : T)
  /-- The channel is being released. -/
  | releasing (c : Channel) (verdict : Verdict)
  /-- It rests before the next attempt. -/
  | resting
  /-- It is over. -/
  | finished
  /-- It broke down with a call. -/
  | crashed
deriving DecidableEq, Inhabited

/-- What the loop does, in the order in which it does it. -/
inductive Event (T : Type) where
  /-- It requests a channel. -/
  | requested
  /-- It got a channel. -/
  | obtained (c : Channel)
  /-- It starts to apply the operand with the given version. -/
  | bound (c : Channel) (operand : T) (version : Nat)
  /-- The channel took the operand. -/
  | accepted (c : Channel) (operand : T)
  /-- The channel becomes current and is announced. -/
  | established (c : Channel) (generation : Nat)
  /-- There is no current channel any more. -/
  | withdrawn
  /-- It starts to release the channel. -/
  | releasing (c : Channel)
  /-- The channel is released. -/
  | released (c : Channel)
  /-- After a failure there will be another attempt. -/
  | scheduled (attempt : UInt32) (delay : Span) (reason : Failure)
  /-- After a failure there will be no other attempt. -/
  | abandoned (attempts : UInt32) (reason : Failure)
  /-- It starts to rest. -/
  | rested (delay : Span)
  /-- The operands have no publisher any more. -/
  | orphaned
  /-- It publishes a state. -/
  | published (state : ConnectionState)
deriving DecidableEq, Inhabited

/-- What the loop sees when it looks around. -/
structure Sight (T : Type) where
  /-- The loop is to stop. -/
  cancelled : Bool := false
  /-- How the session of the channel in use ended, if it did. -/
  ended : Option SessionEnd := none
  /-- The latest operand. -/
  operand : Watch T
  /-- The operands still have a publisher. -/
  supplied : Bool := true
deriving Inhabited

/-- The answer to the call that the loop is waiting for. -/
inductive Reply where
  /-- The requested channel. -/
  | created (c : Channel)
  /-- There is no channel to be had. -/
  | refused (reason : Failure)
  /-- The operand is applied. -/
  | applied
  /-- The operand is rejected. -/
  | rejected (reason : Failure)
  /-- The channel is released. -/
  | released
  /-- The rest is over. -/
  | elapsed
  /-- The call, or the wait for the end of the session, broke down and takes the loop with it. -/
  | broke
deriving DecidableEq, Inhabited

end Loop

/-- The state of the reconnect loop between two of its steps. -/
structure Loop (T : Type) where
  policy : RetryPolicy
  /-- Failures in a row since a channel was established. -/
  failures : UInt32 := 0
  /-- Channels established so far. -/
  generation : Nat := 0
  /-- The version of the operand taken last. -/
  seen : Nat := 0
  wait : Loop.Wait T := .spawned
deriving DecidableEq, Inhabited

namespace Loop

variable {T : Type}

/-- The result of a step: the loop at its next point and what it did on the way. -/
abbrev Result (T : Type) := Loop T × List (Event T)

/-- The loop is neither over nor broken down. -/
def isRunning (l : Loop T) : Bool :=
  match l.wait with
  | .finished | .crashed => false
  | _ => true

/-- The channel that the loop holds and has not begun to release. -/
def channel? (l : Loop T) : Option Channel :=
  match l.wait with
  | .replaying c _ | .serving c | .applying c _ => some c
  | _ => none

/-- One failure more; the count stays at its greatest value. -/
def countFailure (failures : UInt32) : UInt32 :=
  if failures = 4294967295 then failures else failures + 1

/-! ### Passages between the points -/

/-- Ends the loop. -/
def stop (l : Loop T) : Result T :=
  ({ l with wait := .finished }, [.published .closed])

/-- Begins an attempt. -/
def attempt (l : Loop T) (cancelled : Bool) : Result T :=
  let opening : Event T := .published (.connecting (l.failures + 1))
  if cancelled then
    let (l, events) := l.stop
    (l, opening :: events)
  else ({ l with wait := .creating }, [opening, .requested])

/-- Counts a failure, and rests or gives up. -/
def fail (l : Loop T) (cancelled : Bool) (reason : Failure) : Result T :=
  let failures := countFailure l.failures
  let l := { l with failures }
  if l.policy.shouldRetry failures then
    let delay := l.policy.delay
    let notes : List (Event T) :=
      [.scheduled failures delay reason, .published (.backoff failures delay reason.message)]
    if cancelled then
      let (l, events) := l.stop
      (l, notes ++ events)
    else ({ l with wait := .resting }, notes ++ [.rested delay])
  else
    ({ l with wait := .finished },
      [.abandoned failures reason, .published (.exhausted failures)])

/-- Starts to release the channel. -/
def release (l : Loop T) (c : Channel) (verdict : Verdict) : Result T :=
  ({ l with wait := .releasing c verdict }, [.releasing c])

/-- Starts to release the established channel. -/
def withdraw (l : Loop T) (c : Channel) (verdict : Verdict) : Result T :=
  let (l, events) := l.release c verdict
  (l, .withdrawn :: events)

/-- Starts to replay the latest operand on a new channel. -/
def serve (l : Loop T) (s : Sight T) (c : Channel) : Result T :=
  let l := { l with seen := s.operand.version }
  if s.cancelled then
    let (l, events) := l.release c .stopped
    (l, .obtained c :: events)
  else
    ({ l with wait := .replaying c s.operand.value },
      [.obtained c, .bound c s.operand.value s.operand.version])

/-- Establishes a channel that has taken its first operand. -/
def establish (l : Loop T) (c : Channel) (operand : T) : Result T :=
  let generation := l.generation + 1
  ({ l with generation, failures := 0, wait := .serving c },
    [.accepted c operand, .established c generation, .published (.connected generation)])

/-- Starts to apply the latest operand to the established channel. -/
def apply (l : Loop T) (s : Sight T) (c : Channel) : Result T :=
  ({ l with seen := s.operand.version, wait := .applying c s.operand.value },
    [.bound c s.operand.value s.operand.version])

/-- Goes on after the release of a channel. -/
def proceed (l : Loop T) (cancelled : Bool) (c : Channel) (verdict : Verdict) : Result T :=
  let (l, events) :=
    match verdict with
    | .stopped => l.stop
    | .failed reason => l.fail cancelled reason
  (l, .released c :: events)

/-! ### Steps -/

/-- What the loop does on account of what it sees, whatever the answer to its call. While it
replays the first operand and while it releases a channel it does not look at the session. -/
def notice? (l : Loop T) (s : Sight T) : Option (Result T) :=
  match l.wait with
  | .spawned => some (l.attempt s.cancelled)
  | .creating => if s.cancelled then some l.stop else none
  | .replaying c _ => if s.cancelled then some (l.release c .stopped) else none
  | .serving c =>
    if s.cancelled then some (l.withdraw c .stopped)
    else
      match s.ended with
      | some ending => some (l.withdraw c (.failed ending.reason))
      | none =>
        if s.operand.changedSince l.seen then some (l.apply s c)
        else if s.supplied then none
        else
          let (l, events) := l.withdraw c .stopped
          some (l, .orphaned :: events)
  | .applying c _ =>
    if s.cancelled then some (l.withdraw c .stopped)
    else s.ended.map fun ending => l.withdraw c (.failed ending.reason)
  | .releasing _ _ => none
  | .resting => if s.cancelled then some l.stop else none
  | .finished | .crashed => none

/-- What the loop does with the answer to the call it is waiting for. An answer to another call
changes nothing. -/
def answer (l : Loop T) (s : Sight T) (r : Reply) : Result T :=
  match l.wait, r with
  | .creating, .created c => l.serve s c
  | .creating, .refused reason => l.fail s.cancelled reason
  | .replaying c operand, .applied => l.establish c operand
  | .replaying c _, .rejected reason => l.release c (.failed reason)
  | .applying c operand, .applied => ({ l with wait := .serving c }, [.accepted c operand])
  | .applying c _, .rejected reason => l.withdraw c (.failed reason)
  | .releasing c verdict, .released => l.proceed s.cancelled c verdict
  | .resting, .elapsed => l.attempt s.cancelled
  | .creating, .broke | .replaying _ _, .broke | .serving _, .broke | .applying _ _, .broke
  | .releasing _ _, .broke => ({ l with wait := .crashed }, [])
  | _, _ => (l, [])

end Loop

end InterestMux
