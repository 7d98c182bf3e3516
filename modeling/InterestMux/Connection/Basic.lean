import InterestMux.Connection.Loop
import InterestMux.Journal
import InterestMux.Ring

/-!
# Connections

A connection keeps one channel alive by its reconnect loop. It publishes its lifecycle state,
shows the current channel and announces every channel that the loop establishes.

## Main definitions

* `Connection.start`, `Connection.close`, `Connection.cancel`
* `Connection.notice?`, `Connection.answer` : steps of the loop, with what they publish.
* `Loop.Event.entry?` : the journal entry for an event.
-/

namespace InterestMux

/-- A connection for operands of one type. -/
structure Connection (T : Type) where
  cancelled : Bool := false
  lifecycle : Watch ConnectionState := ⟨.idle, 0⟩
  current : Option Channel := none
  channels : Ring Channel
  loop : Option (Loop T) := none
  /-- No call to close has taken charge of the loop's end yet. -/
  unclaimed : Bool := true
deriving Inhabited

/-- What remains to be done for a call to close. -/
inductive Closing where
  /-- The loop has to end first. -/
  | awaitsLoop
  /-- Nothing. -/
  | done
deriving DecidableEq, Repr, Inhabited

namespace Connection

variable {T : Type}

/-- The loop is there, and neither over nor broken down. -/
def isRunning (c : Connection T) : Bool :=
  (c.loop.map Loop.isRunning).getD false

/-- The loop is there and has broken down. -/
def isCrashed (c : Connection T) : Bool :=
  match c.loop.map (·.wait) with
  | some Loop.Wait.crashed => true
  | _ => false

/-- Takes over what an event of the loop publishes. -/
def record (c : Connection T) : Loop.Event T → Connection T
  | .established channel _ =>
    { c with current := some channel, channels := c.channels.announce channel }
  | .withdrawn => { c with current := none }
  | .published state => { c with lifecycle := c.lifecycle.publish state }
  | _ => c

/-- Puts the loop in place after a step, with what its events publish. -/
def advance (c : Connection T) (r : Loop.Result T) : Connection T × List (Loop.Event T) :=
  (r.2.foldl record { c with loop := some r.1 }, r.2)

/-- Starts the loop, unless there is one already or the connection is closed. -/
def start (c : Connection T) (policy : RetryPolicy) : Connection T :=
  if c.loop.isNone && !c.cancelled then { c with loop := some { policy } } else c

/-- Tells the loop to stop. -/
def cancel (c : Connection T) : Connection T :=
  { c with cancelled := true }

/-- Closes the connection. The first call takes charge of the loop if there is one, and has to
wait for its end; any other call publishes the closed state unless the state is terminal. -/
def close (c : Connection T) : Connection T × Closing :=
  let c := c.cancel
  if c.loop.isSome && c.unclaimed then ({ c with unclaimed := false }, .awaitsLoop)
  else if c.lifecycle.value.isTerminal then (c, .done)
  else ({ c with lifecycle := c.lifecycle.publish .closed }, .done)

/-- What the loop sees, given the operands and the end of the session in use. -/
def sight (c : Connection T) (operand : Watch T) (supplied : Bool)
    (ended : Option SessionEnd) : Loop.Sight T :=
  { cancelled := c.cancelled, ended, operand, supplied }

/-- What the loop does on account of what it sees. -/
def notice? (c : Connection T) (operand : Watch T) (supplied : Bool)
    (ended : Option SessionEnd) : Option (Connection T × List (Loop.Event T)) :=
  c.loop.bind fun l => (l.notice? (c.sight operand supplied ended)).map c.advance

/-- What the loop does with the answer to its call. -/
def answer (c : Connection T) (operand : Watch T) (r : Loop.Reply) :
    Connection T × List (Loop.Event T) :=
  match c.loop with
  | some l => c.advance (l.answer (c.sight operand true none) r)
  | none => (c, [])

end Connection

namespace Loop.Event

/-- The journal entry for an event of a loop, if it leaves one. -/
def entry? {T : Type} : Loop.Event T → Option Entry
  | .established _ generation =>
    some ⟨.info, "interest channel established", [("generation", toString generation)]⟩
  | .scheduled attempt delay reason =>
    some ⟨.warn, "interest channel lost, scheduling reconnect",
      [("attempt", toString attempt.toNat),
        ("delay_ms", toString (delay.wholeMillis % UInt64.size)), ("error", reason.message)]⟩
  | .abandoned attempts reason =>
    some ⟨.warn, "reconnect attempts exhausted",
      [("attempts", toString attempts.toNat), ("error", reason.message)]⟩
  | .orphaned => some ⟨.debug, "operand source dropped, stopping connection", []⟩
  | .published state => some ⟨.debug, "connection lifecycle", [("state", state.text)]⟩
  | _ => none

/-- The journal entry of a call to close that finds the loop broken down. -/
def crashEntry : Entry :=
  ⟨.warn, "reconnect loop ended abnormally", []⟩

end Loop.Event

end InterestMux
