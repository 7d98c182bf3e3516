import InterestMux.Handler.Basic
import InterestMux.Rehearsal.Clock
import InterestMux.Rehearsal.Registry

/-!
# Rehearsing a handler

A handler on a stage with a registry in memory, with named streams, observers of its lifecycle and
a caller who takes one step after another.

## Main definitions

* `HandlerRun`, `HandlerRun.Step`, `HandlerRun.Answer`
* `HandlerRun.perform` : one step of the caller.
* `HandlerRun.rehearse` : a snapshot before the first step and one after every step.
-/

namespace InterestMux

/-- A handler and its surroundings. -/
structure HandlerRun where
  handler : Handler Instance
  registry : Registry := {}
  stage : Stage
  /-- The streams that the caller holds, by name. -/
  names : List (String × Nat) := []
  /-- The version that each observer of the lifecycle saw last. -/
  watchers : List Nat := []
deriving Inhabited

namespace HandlerRun

/-- The tasks of a handler. -/
inductive Task where
  | evictor
  | loop
  | follower
  | forwarder (stream : Nat)
deriving DecidableEq, Repr, Inhabited

/-- What the caller does in one step. -/
inductive Step where
  | settle
  | direct (direction : Direction)
  | advance (millis : Nat)
  | watch
  | look (watcher : Nat)
  /-- Opens a stream under a name, unless no interest could be read. -/
  | subscribe (name : String) (interest : Option Interest)
  | dropStream (name : String)
  | describe (name : String)
  /-- Reads and lets the tasks run after each delivery. -/
  | read (name : String) (bound : Option Nat)
  /-- Reads without letting the tasks run. -/
  | take (name : String) (bound : Option Nat)
  | register (x : Instance) (source : Source)
  | burst (count : Nat) (x : Instance) (source : Source)
  | emit (n : Notification Instance)
  | hold (held : Bool)
  | failEvictions (reason : Option Failure)
  | stopRegistry
  | shutdown
  | drop

/-- How reading from a stream came to its end. -/
inductive ReadEnd where
  | bounded
  | pending
  | ended
deriving DecidableEq, Repr, Inhabited

/-- What a step answers. -/
inductive Answer where
  | nothing
  | missing (what : Missing)
  | unreadable
  | failed (reason : Failure)
  | broke (cause : Breakdown)
  | existed (found : Bool)
  | described (interest : Interest) (detail : String)
  | deliveries (items : List (Delivery Instance)) (stop : ReadEnd)
  | looked (fresh : Option Bool) (state : ConnectionState)
  | several (answers : List Answer)
deriving Inhabited

/-- A step of the caller, or several without a pause. -/
inductive Scene where
  | one (step : Step)
  | batch (steps : List Step)

/-- What can be seen of a handler. -/
structure Outlook where
  state : ConnectionState
  union : Interest
  count : Nat
  shutDown : Bool
  channel : Option Channel

/-- What can be seen after a step. -/
structure Snapshot where
  answer : Answer
  now : Nat
  handler : Option Outlook
  entries : List String
  lines : List (Group × String)

/-! ### Tasks -/

/-- The group that writes an event down. -/
def groupOf : Handler.Event → Group
  | .connection _ | .loopCrashed => .connection
  | .eviction _ => .eviction
  | .reported _ => .lifecycle
  | .united _ | .queried _ | .subscribed _ _ | .refused | .shuttingDown | .registryShutDown => .main

/-- What the surroundings do about an event. -/
def react (r : HandlerRun) (e : Handler.Event) : HandlerRun :=
  let stage := match e with
    | .connection e => r.stage.react Interest.text e
    | e => r.stage.note (groupOf e) e.entry?
  let r := { r with stage }
  match e with
  | .eviction (.began source) =>
    { r with
      stage := r.stage.write .eviction ("evict all except " ++ source.text)
      registry := r.registry.evict source }
  | .eviction (.evicted _ _) | .eviction (.failed _ _) =>
    { r with registry.round := none }
  | .subscribed _ interest => { r with registry := r.registry.subscribe interest }
  | .registryShutDown =>
    { r with stage := r.stage.write .main "registry shutdown", registry.stopped := true }
  | _ => r

/-- Puts the handler in place after a step, and lets its surroundings react. -/
def follow (r : HandlerRun) (result : Handler.Result Instance) : HandlerRun :=
  result.2.foldl react { r with handler := result.1 }

/-- The end of the session in use, if it has come. -/
def ended? (r : HandlerRun) : Option SessionEnd :=
  (r.handler.connection.loop.bind Loop.channel?).bind r.stage.ended?

/-- A step of the loop: what it does on its own account, or the next move of its pending call. -/
def stepLoop? (r : HandlerRun) : Option HandlerRun :=
  match r.handler.noticeLoop? r.ended? with
  | some result => some ({ r with stage.pending := .idle }.follow result)
  | none =>
    if r.handler.connection.isRunning && r.stage.isReady then
      match r.stage.proceed with
      | (some reply, stage) => some ({ r with stage }.follow (r.handler.answerLoop reply))
      | (none, stage) => some { r with stage }
    else none

/-- A step of the evictor. -/
def stepEvictor? (r : HandlerRun) : Option HandlerRun :=
  match r.handler.noticeEvictor? with
  | some result => some (r.follow result)
  | none => r.registry.outcome?.map fun outcome => r.follow (r.handler.answerEvictor outcome)

/-- A step of a forwarder. -/
def stepForwarder? (r : HandlerRun) (k : Nat) : Option HandlerRun :=
  match r.handler.noticeForwarder? k with
  | some handler => some { r with handler }
  | none =>
    if r.handler.isSelecting k then
      (r.registry.next? k).map fun (next, registry) =>
        { r with registry, handler := r.handler.pull k next }
    else none

/-- A step of a task. -/
def step? (r : HandlerRun) : Task → Option HandlerRun
  | .evictor => r.stepEvictor?
  | .loop => r.stepLoop?
  | .follower => r.handler.noticeFollower?.map r.follow
  | .forwarder k => r.stepForwarder? k

/-- All tasks of a handler. -/
def tasks (r : HandlerRun) : List Task :=
  .evictor :: .loop :: .follower :: (List.range r.handler.streams.length).map .forwarder

/-- The tasks of a handler on a stage. -/
def ensemble : StagedEnsemble HandlerRun Task where
  tasks := tasks
  step? := step?
  loop := .loop
  stage := stage
  withStage r stage := { r with stage }

/-- The tasks of the run and the queue. -/
abbrev State := Agenda HandlerRun Task

/-! ### Steps of the caller -/

/-- Changes the run; whoever can go on then queues up. -/
def act (a : State) (f : HandlerRun → HandlerRun) : State :=
  a.act ensemble.toEnsemble f

/-- The number of the stream with a name. -/
def stream? (r : HandlerRun) (name : String) : Option Nat :=
  (r.names.find? fun n => n.1 == name).map (·.2)

/-- Gives up the stream with a name. -/
def dropNamed (r : HandlerRun) (name : String) : HandlerRun :=
  match r.stream? name with
  | some k =>
    { r with names := r.names.filter fun n => n.1 != name }.follow (r.handler.dropStream k)
  | none => r

/-- Opens a stream under a name. An older stream of the name is given up afterwards. -/
def subscribe (a : State) (name : String) (interest : Interest) : Answer × State :=
  match a.state.handler.subscribe interest with
  | (result, .opened k) =>
    (.nothing, act a fun r =>
      let r := (r.follow result).dropNamed name
      { r with names := (name, k) :: r.names })
  | (result, .refused reason) => (.failed reason, act a fun r => r.follow result)
  | (result, .broke cause) => (.broke cause, act a fun r => r.follow result)

/-- Reads from a stream until there is nothing to be had or `fuel` deliveries were read. After
each delivery the tasks run if `settling` says so. -/
def readFrom (settling : Bool) (k : Nat) :
    Nat → State → (List (Delivery Instance) × ReadEnd) × State
  | 0, a => (([], .bounded), a)
  | fuel + 1, a =>
    match a.state.handler.poll k with
    | (.ready d, handler) =>
      let a := act a fun r => { r with handler }
      let a := if settling then a.settle ensemble.toEnsemble else a
      let ((items, stop), a) := readFrom settling k fuel a
      ((d :: items, stop), a)
    | (.pending, _) => (([], .pending), a)
    | (.ended, _) => (([], .ended), a)

/-- How many deliveries a caller reads at most who sets no bound. -/
def readingLimit : Nat := 100000

/-- Reads from the stream with a name. -/
def read (a : State) (settling : Bool) (name : String) (bound : Option Nat) : Answer × State :=
  match a.state.stream? name with
  | none => (.missing .stream, a)
  | some k =>
    let ((items, stop), a) := readFrom settling k (bound.getD readingLimit) a
    (.deliveries items stop, a)

/-- Registers so many instances, numbered from zero. -/
def burst (registry : Registry) (count : Nat) (x : Instance) (source : Source) : Registry :=
  (List.range count).foldl
    (fun registry i => registry.register { x with id := x.id ++ toString i } source) registry

/-- Shuts the handler down and waits for the end of the loop. -/
def shutdown (a : State) : State :=
  let begun := a.state.handler.isShutDown
  let a := act a fun r => r.follow r.handler.shutdown
  if begun then a
  else
    let (_, a) := a.await ensemble.toEnsemble fun r => r.handler.finishShutdown?.isSome
    act a fun r => (r.handler.finishShutdown?.map r.follow).getD r

/-- One step of the caller. -/
def perform (a : State) : Step → Answer × State
  | .settle => (.nothing, a.settle ensemble.toEnsemble)
  | .direct direction =>
    match a.state.stage.direct? direction with
    | some stage => (.nothing, act a fun r => { r with stage })
    | none => (.missing .session, a)
  | .advance millis => (.nothing, a.advance ensemble millis)
  | .watch =>
    if a.state.handler.dropped then (.missing .dropped, a)
    else
      (.nothing, act a fun r =>
        { r with watchers := r.watchers ++ [r.handler.connection.lifecycle.version] })
  | .look watcher =>
    match a.state.watchers[watcher]? with
    | none => (.missing .watcher, a)
    | some seen =>
      let lifecycle := a.state.handler.connection.lifecycle
      let fresh :=
        if a.state.handler.isPublishing then some (lifecycle.changedSince seen) else none
      (.looked fresh lifecycle.value,
        act a fun r => { r with watchers := r.watchers.set watcher lifecycle.version })
  | .subscribe name interest =>
    if a.state.handler.dropped then (.missing .dropped, a)
    else
      match interest with
      | some interest => subscribe a name interest
      | none => (.unreadable, a)
  | .dropStream name =>
    (.existed (a.state.stream? name).isSome, act a fun r => r.dropNamed name)
  | .describe name =>
    match (a.state.stream? name).bind fun k => a.state.handler.streams[k]? with
    | some s => (.described s.interest s.detail, a)
    | none => (.missing .stream, a)
  | .read name bound => read a true name bound
  | .take name bound => read a false name bound
  | .register x source =>
    (.nothing, act a fun r => { r with registry := r.registry.register x source })
  | .burst count x source =>
    (.nothing, act a fun r => { r with registry := burst r.registry count x source })
  | .emit n => (.nothing, act a fun r => { r with registry := r.registry.emit n })
  | .hold held => (.nothing, act a fun r => { r with registry.held := held })
  | .failEvictions reason => (.nothing, act a fun r => { r with registry.failing := reason })
  | .stopRegistry => (.nothing, act a fun r => { r with registry.stopped := true })
  | .shutdown =>
    if a.state.handler.dropped then (.missing .dropped, a) else (.nothing, shutdown a)
  | .drop => (.nothing, act a fun r => { r with handler := r.handler.drop })

/-- Several steps without a pause. -/
def performAll (a : State) : List Step → List Answer × State
  | [] => ([], a)
  | step :: steps =>
    let (answer, a) := perform a step
    let (answers, a) := performAll a steps
    (answer :: answers, a)

/-- What can be seen of the handler, unless it is dropped. -/
def outlook? (r : HandlerRun) : Option Outlook :=
  if r.handler.dropped then none
  else
    some {
      state := r.handler.connectionState
      union := r.handler.currentInterest
      count := r.handler.registrationCount
      shutDown := r.handler.isShutDown
      channel := r.handler.currentChannel }

/-- What can be seen now, and the run with its lines taken away. -/
def snapshot (a : State) (answer : Answer) : Snapshot × State :=
  let r := a.state
  ({ answer
     now := r.stage.now
     handler := r.outlook?
     entries := r.registry.entries.map (·.1.id)
     lines := r.stage.lines },
    { a with state := { r with stage.lines := [] } })

/-- One scene; in the end every task waits. -/
def play (a : State) (scene : Scene) : Snapshot × State :=
  let (answer, a) :=
    match scene with
    | .one step => perform a step
    | .batch steps =>
      let (answers, a) := performAll a steps
      (.several answers, a)
  snapshot (a.settle ensemble.toEnsemble) answer

/-- The snapshots after scenes, and what was measured in the end. -/
def playAll (a : State) : List Scene → List Snapshot × Option Metrics
  | [] => ([], a.state.handler.metrics)
  | scene :: scenes =>
    let (shot, a) := play a scene
    let (shots, metrics) := playAll a scenes
    (shot :: shots, metrics)

/-- A snapshot before the first scene and one after every scene, and what was measured. -/
def rehearse (r : HandlerRun) (scenes : List Scene) : List Snapshot × Option Metrics :=
  let (shot, a) := snapshot (act { state := r } id) .nothing
  let (shots, metrics) := playAll a scenes
  (shot :: shots, metrics)

end HandlerRun

end InterestMux
