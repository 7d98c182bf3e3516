import InterestMux.Rehearsal.Clock

/-!
# Rehearsing a connection

A connection for integers on a stage, with observers of its channels and of its lifecycle, and a
caller who takes one step after another.

## Main definitions

* `ConnectionRun`, `ConnectionRun.Step`, `ConnectionRun.Answer`
* `ConnectionRun.perform` : one step of the caller.
* `ConnectionRun.rehearse` : a snapshot before the first step and one after every step.
-/

namespace InterestMux

/-- A connection, its operands and its surroundings. -/
structure ConnectionRun where
  connection : Connection Int
  operand : Watch Int
  /-- The operands have a publisher. -/
  supplied : Bool := true
  /-- The connection is dropped. -/
  dropped : Bool := false
  stage : Stage
  /-- How many announcements each observer of the channels has behind it. -/
  observers : List Nat := []
  /-- The version that each observer of the lifecycle saw last. -/
  watchers : List Nat := []
deriving Inhabited

namespace ConnectionRun

/-- What the caller does in one step. -/
inductive Step where
  | settle
  | start (policy : RetryPolicy)
  | operand (value : Int)
  | dropOperand
  | direct (direction : Direction)
  | advance (millis : Nat)
  | close
  | drop
  | observe
  | receive (observer : Nat)
  | watch
  | look (watcher : Nat)

/-- What a step answers. -/
inductive Answer where
  | nothing
  | missing (what : Missing)
  | state (state : ConnectionState)
  /-- What an observer received, and whether nothing more can come. -/
  | received (receipts : List (Receipt Channel)) (closed : Bool)
  /-- Whether the state is new, unless nothing more can come, and the state. -/
  | looked (fresh : Option Bool) (state : ConnectionState)
  | several (answers : List Answer)
deriving Inhabited

/-- A step of the caller, or several without a pause. -/
inductive Scene where
  | one (step : Step)
  | batch (steps : List Step)

/-- What can be seen after a step. -/
structure Snapshot where
  answer : Answer
  now : Nat
  state : Option ConnectionState
  current : Option Channel
  lines : List (Group × String)

/-- Somebody may still publish lifecycle states and announce channels. -/
def isPublishing (r : ConnectionRun) : Bool :=
  !r.dropped || r.connection.isRunning

/-- The end of the session in use, if it has come. -/
def ended? (r : ConnectionRun) : Option SessionEnd :=
  (r.connection.loop.bind Loop.channel?).bind r.stage.ended?

/-- Puts the connection in place after a step of the loop; the stage reacts to what it did. -/
def follow (r : ConnectionRun) (stage : Stage)
    (result : Connection Int × List (Loop.Event Int)) : ConnectionRun :=
  { r with
    connection := result.1
    stage := result.2.foldl (Stage.react toString) stage }

/-- A step of the loop: what it does on its own account, or the next move of its pending call. -/
def stepLoop? (r : ConnectionRun) : Option ConnectionRun :=
  match r.connection.notice? r.operand r.supplied r.ended? with
  | some result => some (r.follow { r.stage with pending := .idle } result)
  | none =>
    if r.connection.isRunning && r.stage.isReady then
      match r.stage.proceed with
      | (some reply, stage) => some (r.follow stage (r.connection.answer r.operand reply))
      | (none, stage) => some { r with stage }
    else none

/-- The loop is the only task. -/
def ensemble : StagedEnsemble ConnectionRun Unit where
  tasks _ := [()]
  step? r _ := r.stepLoop?
  loop := ()
  stage := stage
  withStage r stage := { r with stage }

/-- The tasks of the run and the queue. -/
abbrev State := Agenda ConnectionRun Unit

/-- Changes the run; whoever can go on then queues up. -/
def act (a : State) (f : ConnectionRun → ConnectionRun) : State :=
  a.act ensemble.toEnsemble f

/-- Closes the connection and waits for the end of the loop if it has to. -/
def close (a : State) : State :=
  let (connection, closing) := a.state.connection.close
  let a := act a fun r => { r with connection }
  match closing with
  | .done => a
  | .awaitsLoop =>
    let (_, a) := a.await ensemble.toEnsemble fun r => !r.connection.isRunning
    if a.state.connection.isCrashed then
      act a fun r => { r with stage := r.stage.note .connection Loop.Event.crashEntry }
    else a

/-- One step of the caller. -/
def perform (a : State) : Step → Answer × State
  | .settle => (.nothing, a.settle ensemble.toEnsemble)
  | .start policy =>
    if a.state.dropped then (.missing .dropped, a)
    else
      let a := act a fun r => { r with connection := r.connection.start policy }
      (.state a.state.connection.lifecycle.value, a)
  | .operand value =>
    if a.state.supplied then
      (.nothing, act a fun r => { r with operand := r.operand.publish value })
    else (.missing .dropped, a)
  | .dropOperand => (.nothing, act a fun r => { r with supplied := false })
  | .direct direction =>
    match a.state.stage.direct? direction with
    | some stage => (.nothing, act a fun r => { r with stage })
    | none => (.missing .session, a)
  | .advance millis => (.nothing, a.advance ensemble millis)
  | .close => if a.state.dropped then (.missing .dropped, a) else (.nothing, close a)
  | .drop =>
    (.nothing, act a fun r => { r with dropped := true, connection := r.connection.cancel })
  | .observe =>
    if a.state.dropped then (.missing .dropped, a)
    else
      (.nothing, act a fun r =>
        { r with observers := r.observers ++ [r.connection.channels.tail] })
  | .receive observer =>
    match a.state.observers[observer]? with
    | none => (.missing .observer, a)
    | some cursor =>
      let channels := a.state.connection.channels
      let (receipts, cursor) := channels.drain cursor (channels.tail + 1)
      (.received receipts !a.state.isPublishing,
        act a fun r => { r with observers := r.observers.set observer cursor })
  | .watch =>
    if a.state.dropped then (.missing .dropped, a)
    else
      (.nothing, act a fun r =>
        { r with watchers := r.watchers ++ [r.connection.lifecycle.version] })
  | .look watcher =>
    match a.state.watchers[watcher]? with
    | none => (.missing .watcher, a)
    | some seen =>
      let lifecycle := a.state.connection.lifecycle
      let fresh := if a.state.isPublishing then some (lifecycle.changedSince seen) else none
      (.looked fresh lifecycle.value,
        act a fun r => { r with watchers := r.watchers.set watcher lifecycle.version })

/-- Several steps without a pause. -/
def performAll (a : State) : List Step → List Answer × State
  | [] => ([], a)
  | step :: steps =>
    let (answer, a) := perform a step
    let (answers, a) := performAll a steps
    (answer :: answers, a)

/-- What can be seen now, and the run with its lines taken away. -/
def snapshot (a : State) (answer : Answer) : Snapshot × State :=
  let r := a.state
  ({ answer
     now := r.stage.now
     state := if r.dropped then none else some r.connection.lifecycle.value
     current := if r.dropped then none else r.connection.current
     lines := r.stage.lines },
    { a with state := { r with stage.lines := [] } })

/-- One scene; in the end every task waits. -/
def play (a : State) (scene : Scene) : Snapshot × State :=
  let (answer, a) :=
    match scene with
    | .one step => perform a step
    | .batch steps =>
      let (answers, a) := performAll a steps
      (.several answers, a)
  snapshot (a.settle ensemble.toEnsemble) answer

/-- The snapshots after scenes. -/
def playAll (a : State) : List Scene → List Snapshot
  | [] => []
  | scene :: scenes =>
    let (shot, a) := play a scene
    shot :: playAll a scenes

/-- A snapshot before the first scene, and one after every scene. -/
def rehearse (r : ConnectionRun) (scenes : List Scene) : List Snapshot :=
  let (shot, a) := snapshot (act { state := r } id) .nothing
  shot :: playAll a scenes

end ConnectionRun

end InterestMux
