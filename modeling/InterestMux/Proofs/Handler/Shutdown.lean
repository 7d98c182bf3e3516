import InterestMux.Proofs.Connection.Conclusion
import InterestMux.Proofs.Handler.Engine
import InterestMux.Proofs.Handler.Run

/-!
# Shutting a handler down

The first call to shut down bars subscriptions from its first step on and closes the connection. It
is completed when the reconnect loop is over: then the other tasks are told to stop and the registry
is shut down, in one step. Other calls do nothing. In between, the loop, the evictor and the streams
go on, and the handler may be dropped.

## Main definitions

* `Handler.InOrder` : what may happen after what happened before.
* `Handler.HasEnded` : the loop is over and has left nothing behind.
* `Handler.IsGated` : a handler that takes no subscriptions any more.
* `Handler.ShutsDown` : a run keeps to all this.

## Main results

* `Handler.advances_of_play?` : a move begins the shutdown, completes it, is a step of the loop, or
  is none of this.
* `Handler.Stages.play` : a move keeps to the order of the shutdown.
* `Handler.Run.shutsDown` : shutdown runs once, in order, and gates subscriptions.
-/

namespace InterestMux.Handler

variable {α : Type}

/-! ### The order of a shutdown -/

/-- What may happen after what happened before. A shutdown begins once; after that the registry is
not asked for an interest and no subscription is opened. The registry is shut down once, after a
shutdown began, and the loop takes no step after that, nor does a round of eviction begin. -/
def InOrder (before : List Event) : Event → Prop
  | .shuttingDown | .queried _ | .subscribed _ _ => .shuttingDown ∉ before
  | .registryShutDown => .shuttingDown ∈ before ∧ .registryShutDown ∉ before
  | .connection _ | .eviction (.began _) => .registryShutDown ∉ before
  | _ => True

/-- What may happen in a phase, but for what the loop and the evictor do and for the steps of the
shutdown. -/
def Phase.Allows (phase : Phase) : Event → Prop
  | .shuttingDown | .registryShutDown | .loopCrashed => False
  | .queried _ | .subscribed _ _ => phase = .running
  | _ => True

/-- What a move does about the shutdown and about the reconnect loop. -/
inductive Advances (h : Handler α) (move : Move α) (events : List Event) (h' : Handler α) : Prop
  | begins (hrunning : h.phase = .running) (hphase : h'.phase = .closing)
      (hloop : h'.connection.loop = h.connection.loop) (hevents : events = [.shuttingDown])
  | completes (hclosing : h.phase = .closing) (hover : h.connection.isRunning = false)
      (hphase : h'.phase = .down) (hstopped : h'.stopped = true)
      (hsame : h'.connection = h.connection) {crash : List Event}
      (hcrash : ∀ e ∈ crash, e = .loopCrashed) (hevents : events = crash ++ [.registryShutDown])
  /-- The loop looks around. -/
  | looks {ended : Option SessionEnd} {result : Connection Interest × List (Loop.Event Interest)}
      (hphase : h'.phase = h.phase)
      (hnotice : h.connection.notice? h.tracker.published true ended = some result)
      (hconnection : h'.connection = result.1) (hevents : events = result.2.map .connection)
  /-- The loop takes an answer. -/
  | hears (r : Loop.Reply) (hphase : h'.phase = h.phase) (hmove : move = .hearLoop r)
      (hconnection : h'.connection = (h.connection.answer h.tracker.published r).1)
      (hevents : events = (h.connection.answer h.tracker.published r).2.map .connection)
  /-- Neither the shutdown nor the loop moves on. -/
  | aside (hphase : h'.phase = h.phase) (hloop : h'.connection.loop = h.connection.loop)
      (hallowed : ∀ e ∈ events, h.phase.Allows e)

theorem allows_of_mem_unionEvents {before after : Tracker} {e : Event} (phase : Phase)
    (he : e ∈ unionEvents before after) : phase.Allows e := by
  obtain ⟨_, -, rfl⟩ := List.mem_map.mp he
  trivial

theorem allows_of_mem_connection {events : List (Loop.Event Interest)} {e : Event} (phase : Phase)
    (he : e ∈ events.map .connection) : phase.Allows e := by
  obtain ⟨_, -, rfl⟩ := List.mem_map.mp he
  trivial

/-- **A move begins the shutdown, completes it, is a step of the loop, or is none of this.** -/
theorem advances_of_play? {h h' : Handler α} {move : Move α} {events : List Event}
    (hplay : h.play? move = some (h', events)) : Advances h move events h' := by
  have hunited (t t' : Tracker) : ∀ e ∈ unionEvents t t', h.phase.Allows e :=
    fun _ he => allows_of_mem_unionEvents _ he
  cases played_of_play? hplay with
  | subscribe _ hcall =>
    cases subscribes_of_eq hcall with
    | opened _ hrunning hopened =>
      refine .aside (by rw [hopened]) (by rw [hopened]) ?_
      exact List.forall_mem_append.mpr ⟨hunited _ _, by simp [Phase.Allows, hrunning]⟩
    | refused => exact .aside rfl rfl fun e he => List.mem_singleton.mp he ▸ trivial
    | broke hrunning =>
      refine .aside rfl rfl (List.forall_mem_append.mpr ⟨?_, hunited _ _⟩)
      exact List.forall_mem_append.mpr ⟨hunited _ _, by simp [Phase.Allows, hrunning]⟩
  | dropStream => exact .aside rfl rfl (hunited _ _)
  | shutdown _ hrunning => exact .begins hrunning rfl (Connection.loop_close _) rfl
  | finishShutdown _ hclosing hover hcrash =>
    refine .completes hclosing hover rfl rfl rfl (fun e he => ?_) rfl
    rw [hcrash] at he
    exact List.mem_singleton.mp (List.mem_ite_nil_right.mp he).2
  | lookLoop hnotice => exact .looks rfl hnotice rfl rfl
  | hearLoop r => exact .hears r rfl rfl rfl rfl
  | lookEvictor | hearEvictor | lookFollower =>
    refine .aside rfl rfl fun e he => ?_
    obtain ⟨_, -, rfl⟩ := List.mem_map.mp he
    trivial
  | _ => exact .aside rfl rfl fun _ he => absurd he List.not_mem_nil

/-! ### What ends with the shutdown -/

namespace Engine

variable {e e' : Engine} {events : List Event}

/-- **A loop that is over stays over**, and does nothing any more. -/
theorem Step.isRunning_eq_false (step : Step e events e')
    (hover : e.connection.isRunning = false) :
    e'.connection.isRunning = false ∧ ∀ d, .connection d ∉ events := by
  cases step with
  | rest | finish | drop => exact ⟨hover, fun _ => List.not_mem_nil⟩
  | close =>
    have hsame : e.connection.close.1.isRunning = e.connection.isRunning := by
      rw [Connection.isRunning, Connection.loop_close, Connection.isRunning]
    exact ⟨hsame.trans hover, fun _ => List.not_mem_nil⟩
  | @turn _ l l' deeds hloop hstep =>
    have hstill : l.isRunning = false := by simpa [Connection.isRunning, hloop] using hover
    obtain ⟨rfl, rfl⟩ := hstep.of_not_running hstill
    exact ⟨hstill, fun _ => List.not_mem_nil⟩
  | notice | answer => exact ⟨hover, fun _ => by simp⟩

/-- **An evictor that is to stop begins no round**, and it stays so. -/
theorem Step.stopped (step : Step e events e') (hstopped : e.stopped = true) :
    e'.stopped = true ∧ ∀ source, .eviction (.began source) ∉ events := by
  cases step with
  | rest | close => exact ⟨hstopped, fun _ => List.not_mem_nil⟩
  | finish | drop => exact ⟨rfl, fun _ => List.not_mem_nil⟩
  | turn => exact ⟨hstopped, fun _ => by simp⟩
  | notice hnotice =>
    rw [hstopped] at hnotice
    obtain rfl := Evictor.notice?_stopped hnotice
    exact ⟨hstopped, fun _ => List.not_mem_nil⟩
  | answer outcome =>
    exact ⟨hstopped, fun source => by simp [Evictor.began_notMem_answer]⟩

end Engine

/-- The phase of a handler tells what happened of its shutdown. -/
structure Stages (events : List Event) (h : Handler α) : Prop where
  inOrder : Throughout InOrder events
  begun_iff : .shuttingDown ∈ events ↔ h.phase ≠ .running
  completed_iff : .registryShutDown ∈ events ↔ h.phase = .down
  quiet : h.phase = .down → h.stopped = true ∧ h.connection.isRunning = false

/-- What is neither the beginning nor the end of the shutdown keeps to its order. -/
theorem Stages.aside {events deeds : List Event} {h h' : Handler α} (stages : Stages events h)
    (step : Step h deeds h') (hphase : h'.phase = h.phase)
    (hallowed : ∀ e ∈ deeds, h.phase.Allows e) : Stages (events ++ deeds) h' := by
  obtain ⟨inOrder, hbegun, hcompleted, hquiet⟩ := stages
  have hover (hdown : h.phase = .down) := step.engine.isRunning_eq_false (hquiet hdown).2
  have hstop (hdown : h.phase = .down) := step.engine.stopped (hquiet hdown).1
  constructor
  case inOrder =>
    refine throughout_append.mpr ⟨inOrder, fun before e after hdeeds => ?_⟩
    have he : e ∈ deeds := by simp [hdeeds]
    -- The step itself does not take the shutdown further.
    have hearlier {x : Event} (hx : ¬ h.phase.Allows x) (hmem : x ∈ events ++ before) :
        x ∈ events :=
      (List.mem_append.mp hmem).resolve_right fun hbefore =>
        hx (hallowed x (by simp [hdeeds, hbefore]))
    have hdown (hmem : .registryShutDown ∈ events ++ before) : h.phase = .down :=
      hcompleted.mp (hearlier id hmem)
    cases e with
    | shuttingDown | registryShutDown => exact (hallowed _ he).elim
    | queried | subscribed =>
      have hrunning : h.phase = .running := hallowed _ he
      exact fun hmem => hbegun.mp (hearlier id hmem) hrunning
    | connection d =>
      exact fun hmem => (hover (hdown hmem)).2 d (List.mem_filter.mpr ⟨he, rfl⟩)
    | eviction d =>
      cases d with
      | began source =>
        exact fun hmem => (hstop (hdown hmem)).2 source (List.mem_filter.mpr ⟨he, rfl⟩)
      | _ => trivial
    | _ => trivial
  case begun_iff =>
    rw [hphase, ← hbegun, List.mem_append]
    exact or_iff_left (hallowed _)
  case completed_iff =>
    rw [hphase, ← hcompleted, List.mem_append]
    exact or_iff_left (hallowed _)
  case quiet =>
    intro hdown
    rw [hphase] at hdown
    exact ⟨(hstop hdown).1, (hover hdown).1⟩

/-- **A move keeps to the order of the shutdown.** -/
theorem Stages.play {events deeds : List Event} {h h' : Handler α} {move : Move α}
    (stages : Stages events h) (hplay : h.play? move = some (h', deeds)) :
    Stages (events ++ deeds) h' := by
  cases advances_of_play? hplay with
  | aside hphase _ hallowed => exact stages.aside (step_of_play? hplay) hphase hallowed
  | looks hphase _ _ hevents | hears _ hphase _ _ hevents =>
    exact stages.aside (step_of_play? hplay) hphase fun e he =>
      allows_of_mem_connection _ (hevents ▸ he)
  | begins hrunning hphase _ hevents =>
    subst hevents
    obtain ⟨inOrder, hbegun, hcompleted, -⟩ := stages
    have hfirst : .shuttingDown ∉ events := by simp [hbegun, hrunning]
    constructor
    case inOrder => exact throughout_concat.mpr ⟨inOrder, hfirst⟩
    case begun_iff => simp [hphase]
    case completed_iff => simp [hphase, hcompleted, hrunning]
    case quiet => simp [hphase]
  | completes hclosing hover hphase hstopped hsame hcrash hevents =>
    subst hevents
    obtain ⟨inOrder, hbegun, hcompleted, -⟩ := stages
    have hbegan : .shuttingDown ∈ events := hbegun.mpr (by simp [hclosing])
    have hfirst : .registryShutDown ∉ events := by simp [hcompleted, hclosing]
    constructor
    case inOrder =>
      rw [← List.append_assoc]
      refine throughout_concat.mpr ⟨throughout_append.mpr ⟨inOrder, fun before e after h₁ => ?_⟩,
        List.mem_append_left _ hbegan, fun hmem => ?_⟩
      · obtain rfl := hcrash e (by simp [h₁])
        trivial
      · rcases List.mem_append.mp hmem with hmem | hmem
        · exact hfirst hmem
        · cases hcrash _ hmem
    case begun_iff => simp [hphase, hbegan]
    case completed_iff => simp [hphase]
    case quiet => exact fun _ => ⟨hstopped, hsame ▸ hover⟩

/-! ### What a shutdown comes to -/

/-- No call of the loop breaks down. -/
def IsCalm (turns : List (Turn α)) : Prop :=
  ∀ t ∈ turns, t.move ≠ .hearLoop .broke

/-- The reconnect loop is over: it has released all channels that it got, and its last word is a
terminal state. -/
structure HasEnded (events : List Event) (h : Handler α) : Prop where
  finished : ∃ l, h.connection.loop = some l ∧ l.wait = .finished
  terminal : h.connectionState.isTerminal = true
  released : Loop.obtained (events.filterMap Event.loop?) =
    Loop.released (events.filterMap Event.loop?)

/-- A shutdown has begun: another call does nothing, and a subscription is refused, which leaves
the handler as it is but for its metrics. -/
structure IsGated (h : Handler α) : Prop where
  isShutDown : h.isShutDown = true
  shutdown_eq : h.shutdown = (h, [])
  refused : ∀ i, ∃ metrics,
    h.subscribe i = (({ h with metrics }, [.refused]), .refused .shutDown)

theorem isGated_of_phase {h : Handler α} (hphase : h.phase ≠ .running) : IsGated h := by
  have hdown : h.isShutDown = true := bne_iff_ne.mpr hphase
  refine ⟨hdown, by rw [shutdown, if_pos hdown], fun i => ?_⟩
  rw [subscribe, if_pos hdown]
  exact ⟨_, rfl⟩

section Run

variable {settings : Settings} {metrics : Option Metrics} {turns : List (Turn α)} {h : Handler α}

/-- **Every run keeps to the order of the shutdown.** -/
theorem Run.stages (run : Run settings metrics turns h) : Stages (eventsOf turns) h := by
  refine run.induction (fun h₀ hbuild => ?_) ?_
  · have hrunning := phase_of_build hbuild
    constructor
    case inOrder => exact throughout_nil _
    case begun_iff => simp [hrunning, eventsOf]
    case completed_iff => simp [hrunning, eventsOf]
    case quiet => simp [hrunning]
  · intro turns h move events h' _ hplay ih
    rw [eventsOf_concat]
    exact ih.play hplay

theorem Run.isSome_loop (run : Run settings metrics turns h) :
    h.connection.loop.isSome = true := by
  have engine := run.course.engine
  change h.engine.connection.loop.isSome = true
  generalize h.engine = e, (eventsOf turns).filter Event.isEngine = deeds at engine
  induction engine with
  | start => rfl
  | step _ last ih =>
    cases last with
    | rest | finish | drop | notice | answer => exact ih
    | close =>
      rw [← ih]
      exact congrArg Option.isSome (Connection.loop_close _)
    | turn => exact congrArg Option.isSome (Connection.foldl_record_loop _ _)

theorem Run.isCrashed_eq_false (run : Run settings metrics turns h) :
    IsCalm turns → h.connection.isCrashed = false := by
  refine run.induction (fun h₀ hbuild _ => ?_) ?_
  · rw [(build_spec hbuild).2.2]
    rfl
  · intro turns h move events h' _ hplay ih hcalm
    have hlive := ih fun t ht => hcalm t (List.mem_append_left _ ht)
    have hmove : move ≠ .hearLoop .broke := hcalm ⟨h, move, events⟩ (by simp)
    cases advances_of_play? hplay with
    | begins _ _ hloop | aside _ hloop =>
      rw [Connection.isCrashed_eq_false_iff] at hlive ⊢
      rwa [hloop]
    | completes _ _ _ _ hsame => exact hsame ▸ hlive
    | looks _ hnotice hconnection => exact hconnection ▸ Connection.isCrashed_of_notice? hnotice
    | hears r _ hreply hconnection =>
      have hr : r ≠ .broke := fun hr => hmove (hr ▸ hreply)
      exact hconnection ▸ Connection.isCrashed_answer hr hlive

/-- A loop that is over has ended by itself if no call broke down. -/
theorem Run.hasEnded (run : Run settings metrics turns h) (hcalm : IsCalm turns)
    (hover : h.connection.isRunning = false) : HasEnded (eventsOf turns) h := by
  obtain ⟨l, hloop⟩ := Option.isSome_iff_exists.mp run.isSome_loop
  have hlive := Connection.isCrashed_eq_false_iff.mp (run.isCrashed_eq_false hcalm) l hloop
  rw [Connection.isRunning, hloop] at hover
  have hfinished : l.wait = .finished :=
    (Loop.isRunning_eq_false_iff.mp hover).resolve_right hlive
  obtain ⟨deeds, course, hdeeds⟩ := run.course.connection
  obtain ⟨hterminal, hreleased⟩ := Connection.Course.conclusion course hloop hfinished
  rw [hdeeds] at hreleased
  exact ⟨⟨l, hloop, hfinished⟩, hterminal, hreleased⟩

theorem phase_of_shutdown {h h' : Handler α} {events : List Event}
    (hplay : h.play? .shutdown = some (h', events)) : h'.phase ≠ .running := by
  cases played_of_play? hplay with
  | shutdown => exact Phase.noConfusion
  | shutdownAgain _ hdown => exact bne_iff_ne.mp hdown

/-- **After a call to shut down the handler never runs again.** -/
theorem Run.phase_ne_running (run : Run settings metrics turns h)
    (hcalled : ∃ t ∈ turns, t.move = .shutdown) : h.phase ≠ .running := by
  obtain ⟨t, ht, hmove⟩ := hcalled
  obtain ⟨before, later, rfl⟩ := List.append_of_mem ht
  obtain ⟨past, h₁, hplay, -⟩ := run.split
  have reached := (past.play t.move hplay).stages.begun_iff.mpr
    (phase_of_shutdown (hmove ▸ hplay))
  refine run.stages.begun_iff.mp ?_
  rw [eventsOf_concat] at reached
  have hall : eventsOf (before ++ t :: later) = eventsOf before ++ t.events ++ eventsOf later := by
    simp [eventsOf]
  exact hall ▸ List.mem_append_left _ reached

/-- The shutdown of a handler runs once and in order, and bars subscriptions. -/
structure ShutsDown (turns : List (Turn α)) (h : Handler α) : Prop where
  inOrder : Throughout InOrder (eventsOf turns)
  /-- The registry is shut down only when the loop has ended, unless a call of the loop broke
  down. -/
  ended : ∀ before t later, turns = before ++ t :: later → .registryShutDown ∈ t.events →
    IsCalm before → HasEnded (eventsOf before) t.before
  /-- From the first call to shut down on, the handler takes no subscriptions. -/
  gated : (∃ t ∈ turns, t.move = .shutdown) → IsGated h
  /-- After that call, as soon as the loop is over, the registry is shut down or can be. -/
  going : (∃ t ∈ turns, t.move = .shutdown) → h.connection.isRunning = false →
    .registryShutDown ∈ eventsOf turns ∨
      ∃ result, h.finishShutdown? = some result ∧ .registryShutDown ∈ result.2

/-- **Shutdown runs once, in order, and gates subscriptions**, in every run. The registry is shut
down at most once, when the reconnect loop has ended in a terminal state and released every channel;
after that neither does the loop do anything nor does a round of eviction begin, but a round that is
under way may end. From the first call to shut down on, subscriptions are refused and leave
everything as it is, and other calls to shut down do nothing. -/
theorem Run.shutsDown (run : Run settings metrics turns h) : ShutsDown turns h := by
  have stages := run.stages
  constructor
  case inOrder => exact stages.inOrder
  case ended =>
    rintro before t later rfl hdown hcalm
    obtain ⟨past, h₁, hplay, -⟩ := run.split
    cases advances_of_play? hplay with
    | completes _ hover => exact past.hasEnded hcalm hover
    | begins _ _ _ hevents | looks _ _ _ hevents | hears _ _ _ _ hevents => simp [hevents] at hdown
    | aside _ _ hallowed => exact (hallowed _ hdown).elim
  case gated => exact fun hcalled => isGated_of_phase (run.phase_ne_running hcalled)
  case going =>
    intro hcalled hover
    cases hphase : h.phase with
    | running => exact absurd hphase (run.phase_ne_running hcalled)
    | closing => exact .inr ⟨_, if_pos ⟨hphase, hover⟩, List.mem_append_right _ (by simp)⟩
    | down => exact .inl (stages.completed_iff.mpr hphase)

end Run

/-- A shutdown begins during a round of eviction and while a channel is established. A second call
and a subscription come to nothing, the channel is released, and the registry is shut down before
the round ends, the last there is. -/
theorem shutsDown_during_round :
    ∃ (turns : List (Turn Nat)) (h : Handler Nat), Run {} none turns h ∧ IsCalm turns ∧
      h.evictor.wait = .finished ∧
      (eventsOf turns).drop 11 =
        [.eviction (.began ⟨.interested, none, 7⟩), .shuttingDown, .refused,
          .connection .withdrawn, .connection (.releasing ⟨0, some ⟨.interested, none, 7⟩⟩),
          .connection (.released ⟨0, some ⟨.interested, none, 7⟩⟩),
          .connection (.published .closed), .registryShutDown,
          .eviction (.evicted 3 ⟨.interested, none, 7⟩)] ∧
      ShutsDown turns h := by
  have built : Run {} none [] (_ : Handler Nat) := ⟨_, rfl, .start⟩
  have opened := (built.play (.subscribe (.application "a")) rfl).play (.lookLoop none) rfl
  have obtained := opened.play (.hearLoop (.created ⟨0, some ⟨.interested, none, 7⟩⟩)) rfl
  have round := (obtained.play (.hearLoop .applied) rfl).play .lookEvictor rfl
  have begun := (round.play .shutdown rfl).play .shutdown rfl
  have refused := begun.play (.subscribe .all) rfl
  have released := (refused.play (.lookLoop none) rfl).play (.hearLoop .released) rfl
  have completed := (released.play .finishShutdown rfl).play .shutdown rfl
  have run := (completed.play (.hearEvictor (.ok 3)) rfl).play .lookEvictor rfl
  exact ⟨_, _, run, by simp [IsCalm], rfl, rfl, run.shutsDown⟩

end InterestMux.Handler
