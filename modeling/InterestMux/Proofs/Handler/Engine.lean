import InterestMux.Proofs.Evictor.Course
import InterestMux.Proofs.Handler.Course
import InterestMux.Proofs.Loop.Stopping

/-!
# The engine of a handler

The connection and the evictor of a handler are not told anything by its callers but to stop: a
shutdown that begins closes the connection, a shutdown that is completed stops the evictor, and a
handler that is dropped stops both. Apart from that they go their own way, and nothing else that
happens to the handler matters to them.

## Main definitions

* `Handler.Engine` : the connection, the evictor, and what they are told.
* `Handler.Engine.Step` : what can happen to them.

## Main results

* `Handler.Step.engine` : a step of a handler is a step of its engine.
* `Handler.Engine.Step.isPublishing_eq_false` : when nobody is left who publishes, the lifecycle
  stays as it is.
* `Handler.Course.isOver_of_finished` : the evictor is not over before the handler is shut down or
  dropped.
-/

namespace InterestMux.Handler

/-- The connection and the evictor of a handler, with what they are told. -/
structure Engine where
  connection : Connection Interest
  evictor : Evictor
  phase : Phase := .running
  stopped : Bool := false
  dropped : Bool := false

/-- The event is something that the loop or the evictor does. -/
def Event.isEngine : Event → Bool
  | .connection _ | .eviction _ => true
  | _ => false

namespace Engine

/-- Somebody may still publish lifecycle states and announce channels. -/
def isPublishing (e : Engine) : Bool :=
  !e.dropped || e.connection.isRunning

/-- What can happen to an engine. -/
inductive Step : Engine → List Event → Engine → Prop
  | rest (e : Engine) : Step e [] e
  | close {e : Engine} (hheld : e.dropped = false) (hrunning : e.phase = .running) :
    Step e [] { e with phase := .closing, connection := e.connection.close.1 }
  | finish {e : Engine} (hheld : e.dropped = false) (hclosing : e.phase = .closing)
      (hover : e.connection.isRunning = false) :
    Step e [] { e with phase := .down, stopped := true }
  | drop {e : Engine} (hheld : e.dropped = false) :
    Step e [] { e with dropped := true, stopped := true, connection := e.connection.cancel }
  /-- The loop looks around, or takes an answer. -/
  | turn {e : Engine} {s : Loop.Sight Interest} {l l' : Loop Interest}
      {deeds : List (Loop.Record Interest)} (hloop : e.connection.loop = some l)
      (hstep : Loop.Step s l deeds l') :
    Step e ((deeds.filterMap Loop.Record.event?).map .connection)
      { e with connection := (e.connection.advance (l', deeds.filterMap Loop.Record.event?)).1 }
  | notice {e : Engine} {result : Evictor.Result}
      (h : e.evictor.notice? e.stopped e.connection.channels e.isPublishing = some result) :
    Step e (result.2.map .eviction) { e with evictor := result.1 }
  | answer (e : Engine) (outcome : Except Failure Nat) :
    Step e ((e.evictor.answer outcome).2.map .eviction)
      { e with evictor := (e.evictor.answer outcome).1 }

end Engine

variable {α : Type}

/-- The engine of a handler. -/
def engine (h : Handler α) : Engine :=
  { connection := h.connection, evictor := h.evictor, phase := h.phase, stopped := h.stopped
    dropped := h.dropped }

/-- The engine of a handler that is built. -/
def Engine.start (settings : Settings) : Engine where
  connection := Connection.start { channels := .create settings.channelHistory.toNat }
    settings.retryPolicy
  evictor := { cursor := 0 }

theorem engine_of_build {settings : Settings} {metrics : Option Metrics} {h : Handler α}
    (hbuild : build settings metrics = .ok h) : h.engine = .start settings := by
  rw [build] at hbuild
  split at hbuild
  · cases hbuild
  · split at hbuild
    · cases hbuild
    · obtain rfl := Except.ok.inj hbuild
      rfl

theorem phase_of_build {settings : Settings} {metrics : Option Metrics} {h : Handler α}
    (hbuild : build settings metrics = .ok h) : h.phase = .running :=
  congrArg Engine.phase (engine_of_build hbuild)

/-! ### Events -/

theorem filter_isEngine_connection (events : List (Loop.Event Interest)) :
    (events.map Event.connection).filter Event.isEngine = events.map .connection :=
  List.filter_eq_self.mpr fun e he => by
    obtain ⟨_, -, rfl⟩ := List.mem_map.mp he
    rfl

theorem filter_isEngine_eviction (events : List Evictor.Event) :
    (events.map Event.eviction).filter Event.isEngine = events.map .eviction :=
  List.filter_eq_self.mpr fun e he => by
    obtain ⟨_, -, rfl⟩ := List.mem_map.mp he
    rfl

theorem filter_isEngine_unionEvents (before after : Tracker) :
    (unionEvents before after).filter Event.isEngine = [] := by
  rw [unionEvents]
  cases Tracker.announced? before after <;> rfl

/-! ### Steps -/

/-- **A step of a handler is a step of its engine.** -/
theorem Step.engine {h h' : Handler α} {events : List Event} (hstep : Step h events h') :
    Engine.Step h.engine (events.filter Event.isEngine) h'.engine := by
  cases hstep with
  | subscribe i hheld =>
    rw [Handler.subscribe]
    by_cases hdown : h.isShutDown = true
    · rw [if_pos hdown]
      exact .rest h.engine
    · rw [if_neg hdown]
      cases Breakdown.ofBuffer? h.streamBuffer with
      | some cause =>
        simp only [finish, List.filter_append, filter_isEngine_unionEvents]
        exact .rest h.engine
      | none =>
        simp only [finish, List.filter_append, filter_isEngine_unionEvents]
        exact .rest h.engine
  | dropStream k =>
    rw [Handler.dropStream]
    cases h.streams[k]? with
    | none => exact .rest h.engine
    | some s =>
      by_cases hheld : s.held = true
      · simp only [if_pos hheld, finish, filter_isEngine_unionEvents]
        exact .rest h.engine
      · simp only [if_neg hheld]
        exact .rest h.engine
  | poll k =>
    rw [Handler.poll]
    cases h.streams[k]? <;> exact .rest h.engine
  | shutdown hheld =>
    rw [Handler.shutdown]
    by_cases hdown : h.isShutDown = true
    · rw [if_pos hdown]
      exact .rest h.engine
    · rw [if_neg hdown]
      have hrunning : h.phase = .running := by simpa [isShutDown] using hdown
      exact .close (e := h.engine) hheld hrunning
  | finishShutdown hheld hfinish =>
    obtain ⟨⟨hclosing, hover⟩, hresult⟩ := Option.ite_none_right_eq_some.mp hfinish
    obtain rfl := Option.some.inj hresult
    cases h.connection.isCrashed <;> exact .finish (e := h.engine) hheld hclosing hover
  | drop hheld => exact .drop (e := h.engine) hheld
  | noticeLoop hnotice =>
    obtain ⟨⟨connection, loopEvents⟩, hloop, rfl⟩ := Option.map_eq_some_iff.mp hnotice
    obtain ⟨l, l', deeds, hl, -, hstep, hw, rfl⟩ :=
      Connection.step_of_notice? (w := h.situation) hloop
    obtain rfl := congrArg Connection.Situation.connection hw
    simp only [finish, filter_isEngine_connection]
    exact .turn (e := h.engine) hl hstep
  | answerLoop r hidle =>
    simp only [Handler.answerLoop, finish, filter_isEngine_connection]
    cases hl : h.connection.loop with
    | none =>
      rw [Connection.answer_of_loop_none hl]
      exact .rest h.engine
    | some l =>
      obtain ⟨l', deeds, hstep, hw, hevents⟩ := Connection.step_of_answer (w := h.situation) hl r
      have hanswer : h.connection.answer h.tracker.published r =
          h.connection.advance (l', deeds.filterMap Loop.Record.event?) :=
        Prod.ext (congrArg Connection.Situation.connection hw) hevents
      rw [hanswer]
      exact .turn (e := h.engine) hl hstep
  | noticeEvictor hnotice =>
    obtain ⟨result, hevictor, rfl⟩ := Option.map_eq_some_iff.mp hnotice
    simp only [finish, filter_isEngine_eviction]
    exact .notice (e := h.engine) hevictor
  | answerEvictor outcome =>
    simp only [Handler.answerEvictor, finish, filter_isEngine_eviction]
    exact .answer h.engine outcome
  | noticeFollower hnotice =>
    obtain ⟨⟨follower, state⟩, -, rfl⟩ := Option.map_eq_some_iff.mp hnotice
    cases state <;> exact .rest h.engine
  | noticeForwarder hnotice =>
    obtain ⟨s, -, hnotice⟩ := Option.bind_eq_some_iff.mp hnotice
    obtain ⟨s', -, rfl⟩ := Option.map_eq_some_iff.mp hnotice
    exact .rest h.engine
  | @pull k next hidle =>
    rw [Handler.pull]
    cases h.streams[k]? <;> exact .rest h.engine

/-- **The engine of a handler runs through a course of its own.** -/
theorem Course.engine {settings : Settings} {metrics : Option Metrics} {events : List Event}
    {h : Handler α} (course : Course settings metrics events h) :
    InterestMux.Course Engine.Step (.start settings) (events.filter Event.isEngine) h.engine := by
  obtain ⟨h₀, hbuild, course⟩ := course
  rw [← engine_of_build hbuild]
  induction course with
  | start => exact .start
  | step _ last ih =>
    rw [List.filter_append]
    exact .step ih last.engine

/-! ### What the engine obeys -/

namespace Engine

variable {e e' : Engine} {events : List Event}

/-- **When nobody is left who publishes, the lifecycle stays as it is.** -/
theorem Step.isPublishing_eq_false (step : Step e events e') (hleft : e.isPublishing = false) :
    e'.isPublishing = false ∧ e'.connection.lifecycle = e.connection.lifecycle := by
  have hdropped : e.dropped = true := by simpa using (Bool.or_eq_false_iff.mp hleft).1
  have hheld : ¬ e.dropped = false := by simp [hdropped]
  cases step with
  | close h | finish h | drop h => exact absurd h hheld
  | rest | notice | answer => exact ⟨hleft, rfl⟩
  | @turn _ l l' deeds hloop hstep =>
    have hover : l.isRunning = false := by
      simpa [Connection.isRunning, hloop] using (Bool.or_eq_false_iff.mp hleft).2
    obtain ⟨rfl, rfl⟩ := hstep.of_not_running hover
    have hsame : e.connection.advance (l', []) = (e.connection, []) := by
      simp only [Connection.advance, List.foldl_nil, ← hloop]
    rw [List.filterMap_nil, hsame]
    exact ⟨hleft, rfl⟩

/-- **The lifecycle stays as it is, or a newer state is published.** -/
theorem Step.lifecycle_eq_or_lt (step : Step e events e') :
    e'.connection.lifecycle = e.connection.lifecycle ∨
      e.connection.lifecycle.version < e'.connection.lifecycle.version := by
  cases step with
  | rest | finish | drop | notice | answer => exact .inl rfl
  | close =>
    have hcloses := Connection.closes_close e.connection
    generalize e.connection.close.1 = c, e.connection.closeDeeds = deeds at hcloses ⊢
    cases hcloses with
    | claim | terminal => exact .inl rfl
    | publish => exact .inr (Nat.lt_succ_self _)
  | turn => exact Connection.foldl_record_lifecycle_eq_or_lt _ _

/-- The handler has been shut down, or is dropped. -/
def IsOver (e : Engine) : Prop :=
  e.phase = .down ∨ e.dropped = true

/-- The evictor stops only when the handler is over. -/
def Obeys (e : Engine) : Prop :=
  (e.stopped = true → e.IsOver) ∧ (e.evictor.wait = .finished → e.IsOver)

theorem Obeys.step (obeys : Obeys e) (step : Step e events e') : Obeys e' := by
  obtain ⟨hstopped, hfinished⟩ := obeys
  cases step with
  | rest | turn => exact ⟨hstopped, hfinished⟩
  | close _ hrunning =>
    -- A handler that is not yet to shut down is over only if it is dropped.
    have hover (h : e.IsOver) : e.dropped = true :=
      h.resolve_left fun hdown => by cases hrunning.symm.trans hdown
    exact ⟨fun h => .inr (hover (hstopped h)), fun h => .inr (hover (hfinished h))⟩
  | finish => exact ⟨fun _ => .inl rfl, fun _ => .inl rfl⟩
  | drop => exact ⟨fun _ => .inr rfl, fun _ => .inr rfl⟩
  | notice hnotice =>
    refine ⟨hstopped, fun hover => ?_⟩
    rcases Evictor.notice?_finished hnotice hover with hstop | hleft
    · exact hstopped hstop
    · exact .inr (by simpa using (Bool.or_eq_false_iff.mp hleft).1)
  | answer => exact ⟨hstopped, fun hover => hfinished (Evictor.answer_finished hover)⟩

end Engine

/-- **The evictor is not over before the handler is shut down or dropped.** -/
theorem Course.isOver_of_finished {settings : Settings} {metrics : Option Metrics}
    {events : List Event} {h : Handler α} (course : Course settings metrics events h)
    (hfinished : h.evictor.wait = .finished) : h.phase = .down ∨ h.dropped = true := by
  have obeys : h.engine.Obeys := by
    have engine := course.engine
    generalize h.engine = e, events.filter Event.isEngine = deeds at engine
    induction engine with
    | start => exact ⟨(nomatch ·), (nomatch ·)⟩
    | step _ last ih => exact ih.step last
  exact obeys.2 hfinished

end InterestMux.Handler
