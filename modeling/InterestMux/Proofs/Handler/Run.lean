import InterestMux.Proofs.Handler.Course

/-!
# Runs of a handler

A run tells a course of a handler turn by turn: the move of a caller, a task or a collaborator,
the handler that it finds, and what it does. A caller can call a handler that is not dropped, a
task takes an answer only if it has nothing to do of its own accord, and the registry hands a
notification only to a forwarder that waits for one.

## Main definitions

* `Handler.Subscribes` : what a caller can get for an interest.
* `Handler.Move`, `Handler.play?`, `Handler.Played` : the moves, and what they do.
* `Handler.Turn`, `Handler.Run`
* `Handler.eventsOf` : what happens in a list of turns.

## Main results

* `Handler.subscribes` : a call for a stream opens one, is refused, or breaks down.
* `Handler.played_of_play?` : what a move does, read off once.
* `Handler.Run.course` : every run is a course.
* `Handler.Run.split` : a run can be taken apart at any of its turns.
-/

namespace InterestMux.Handler

variable {α : Type} {h h' : Handler α} {events : List Event}

/-! ### Calls -/

theorem recordings_unionEvents (t t' : Tracker) :
    (unionEvents t t').flatMap Event.recordings = [] := by
  rw [unionEvents]
  cases Tracker.announced? t t' <;> rfl

theorem measure_of_recordings (h : Handler α) (hnone : events.flatMap Event.recordings = []) :
    h.measure events = h := by
  simp only [measure, hnone, List.foldl_nil, Option.map_id']

/-- What a caller can get for an interest, with the handler after the call and what happens in it.
Nothing but the metrics is touched unless it says so. -/
inductive Subscribes (h : Handler α) (i : Interest) : Result α × Subscription → Prop
  | opened (h' : Handler α) (hrunning : h.phase = .running)
      (hopened : h' = { h with
        tracker := h.tracker.append i
        streams := h.streams ++
          [{ interest := i, capacity := h.streamBuffer, forwarder := { seen := 0 } }]
        metrics := h'.metrics }) :
    Subscribes h i
      ((h', unionEvents h.tracker (h.tracker.append i) ++
          [.queried i, .subscribed h.streams.length i]), .opened h.streams.length)
  | refused (hdown : h.isShutDown = true) :
    Subscribes h i ((h.measure [.refused], [.refused]), .refused .shutDown)
  | broke (hrunning : h.phase = .running) (cause : Breakdown) :
    Subscribes h i
      (({ h with tracker := (h.tracker.append i).remove i },
        unionEvents h.tracker (h.tracker.append i) ++ [.queried i] ++
          unionEvents (h.tracker.append i) ((h.tracker.append i).remove i)), .broke cause)

/-- **A call for a stream opens one, is refused, or breaks down.** -/
theorem subscribes (h : Handler α) (i : Interest) : Subscribes h i (h.subscribe i) := by
  rw [subscribe]
  by_cases hdown : h.isShutDown = true
  · rw [if_pos hdown]
    exact .refused hdown
  · have hrunning : h.phase = .running := by simpa [isShutDown] using hdown
    rw [if_neg hdown]
    cases Breakdown.ofBuffer? h.streamBuffer with
    | none =>
      simp only [finish, List.append_assoc, List.cons_append, List.nil_append]
      exact .opened _ hrunning rfl
    | some cause =>
      simp only [finish]
      rw [measure_of_recordings]
      · exact .broke hrunning cause
      · simp only [List.flatMap_append, recordings_unionEvents]
        rfl

theorem subscribes_of_eq {i : Interest} {result : Result α × Subscription}
    (hcall : h.subscribe i = result) : Subscribes h i result :=
  hcall ▸ subscribes h i

theorem dropStream_of_held {k : Nat} {s : Stream α} (hk : h.streams[k]? = some s)
    (hheld : s.held = true) :
    h.dropStream k =
      ({ h with tracker := h.tracker.remove s.interest, streams := h.streams.set k s.drop },
        unionEvents h.tracker (h.tracker.remove s.interest)) := by
  simp only [dropStream, hk, if_pos hheld, finish]
  rw [measure_of_recordings _ (recordings_unionEvents _ _)]
  rfl

theorem dropStream_of_not_held {k : Nat}
    (hk : ¬ ∃ s, h.streams[k]? = some s ∧ s.held = true) : h.dropStream k = (h, []) := by
  rw [dropStream]
  cases hs : h.streams[k]? with
  | none => rfl
  | some s => exact if_neg fun hheld => hk ⟨s, hs, hheld⟩

theorem finishShutdown?_of_over (hclosing : h.phase = .closing)
    (hover : h.connection.isRunning = false) :
    h.finishShutdown? = some ({ h with phase := .down, stopped := true },
      (if h.connection.isCrashed then [.loopCrashed] else []) ++ [.registryShutDown]) := by
  have hnone : ((if h.connection.isCrashed then [Event.loopCrashed] else []) ++
      [Event.registryShutDown]).flatMap Event.recordings = [] := by
    cases h.connection.isCrashed <;> rfl
  rw [finishShutdown?, if_pos ⟨hclosing, hover⟩]
  exact congrArg (fun h => some (h, _)) (measure_of_recordings _ hnone)

/-! ### Moves -/

/-- What a caller, a task or a collaborator of a handler does. -/
inductive Move (α : Type) where
  /-- A stream is asked for. -/
  | subscribe (i : Interest)
  /-- A stream is dropped. -/
  | dropStream (k : Nat)
  /-- A subscriber looks for the next delivery. -/
  | poll (k : Nat)
  /-- A call to shut down. -/
  | shutdown
  /-- The shutdown is completed. -/
  | finishShutdown
  /-- The handler is dropped. -/
  | drop
  /-- The reconnect loop looks around. -/
  | lookLoop (ended : Option SessionEnd)
  /-- The reconnect loop takes an answer. -/
  | hearLoop (r : Loop.Reply)
  | lookEvictor
  | hearEvictor (outcome : Except Failure Nat)
  | lookFollower
  | lookForwarder (k : Nat)
  /-- A forwarder takes a notification of the registry, or learns that there are no more. -/
  | pull (k : Nat) (next : Option (Notification α))

/-- What a move does and where it leads, if it can be made. -/
def play? (h : Handler α) : Move α → Option (Result α)
  | .subscribe i => if h.dropped then none else some (h.subscribe i).1
  | .dropStream k => some (h.dropStream k)
  | .poll k => some ((h.poll k).2, [])
  | .shutdown => if h.dropped then none else some h.shutdown
  | .finishShutdown => if h.dropped then none else h.finishShutdown?
  | .drop => if h.dropped then none else some (h.drop, [])
  | .lookLoop ended => h.noticeLoop? ended
  | .hearLoop r => if (h.noticeLoop? none).isNone then some (h.answerLoop r) else none
  | .lookEvictor => h.noticeEvictor?
  | .hearEvictor outcome => some (h.answerEvictor outcome)
  | .lookFollower => h.noticeFollower?
  | .lookForwarder k => (h.noticeForwarder? k).map (·, [])
  | .pull k next =>
    if h.isSelecting k && (h.noticeForwarder? k).isNone then some (h.pull k next, []) else none

/-- What the moves do. -/
inductive Played (h : Handler α) : Move α → List Event → Handler α → Prop
  | subscribe {i : Interest} {h' : Handler α} {events : List Event} {subscription : Subscription}
      (hheld : h.dropped = false) (hcall : h.subscribe i = ((h', events), subscription)) :
    Played h (.subscribe i) events h'
  | dropStream {k : Nat} {s : Stream α} (hk : h.streams[k]? = some s) (hheld : s.held = true) :
    Played h (.dropStream k) (unionEvents h.tracker (h.tracker.remove s.interest))
      { h with tracker := h.tracker.remove s.interest, streams := h.streams.set k s.drop }
  | dropNothing {k : Nat} (hk : ¬ ∃ s, h.streams[k]? = some s ∧ s.held = true) :
    Played h (.dropStream k) [] h
  | poll {k : Nat} {s : Stream α} (hk : h.streams[k]? = some s) :
    Played h (.poll k) [] (h.setStream k s.poll.2)
  | pollNothing {k : Nat} (hk : h.streams[k]? = none) : Played h (.poll k) [] h
  | shutdown (hheld : h.dropped = false) (hrunning : h.phase = .running) :
    Played h .shutdown [.shuttingDown]
      { h with phase := .closing, connection := h.connection.close.1 }
  | shutdownAgain (hheld : h.dropped = false) (hdown : h.isShutDown = true) :
    Played h .shutdown [] h
  | finishShutdown {crash : List Event} (hheld : h.dropped = false)
      (hclosing : h.phase = .closing) (hover : h.connection.isRunning = false)
      (hcrash : crash = if h.connection.isCrashed then [.loopCrashed] else []) :
    Played h .finishShutdown (crash ++ [.registryShutDown])
      { h with phase := .down, stopped := true }
  | drop (hheld : h.dropped = false) : Played h .drop [] h.drop
  | lookLoop {ended : Option SessionEnd} {result : Connection Interest × List (Loop.Event Interest)}
      (hnotice : h.connection.notice? h.tracker.published true ended = some result) :
    Played h (.lookLoop ended) (result.2.map .connection)
      (finish { h with connection := result.1 } (result.2.map .connection)).1
  | hearLoop (r : Loop.Reply)
      (hidle : h.connection.notice? h.tracker.published true none = none) :
    Played h (.hearLoop r) ((h.connection.answer h.tracker.published r).2.map .connection)
      (h.answerLoop r).1
  | lookEvictor {result : Evictor.Result}
      (hnotice : h.evictor.notice? h.stopped h.connection.channels h.isPublishing = some result) :
    Played h .lookEvictor (result.2.map .eviction)
      (finish { h with evictor := result.1 } (result.2.map .eviction)).1
  | hearEvictor (outcome : Except Failure Nat) :
    Played h (.hearEvictor outcome) ((h.evictor.answer outcome).2.map .eviction)
      (h.answerEvictor outcome).1
  | lookFollower {result : Follower × Option ConnectionState}
      (hnotice : h.follower.notice? h.stopped h.connection.lifecycle h.isPublishing =
        some result) :
    Played h .lookFollower (result.2.toList.map .reported)
      (finish { h with follower := result.1 } (result.2.toList.map .reported)).1
  | lookForwarder {k : Nat} {s s' : Stream α} (hk : h.streams[k]? = some s)
      (hnotice : s.notice? h.connection.lifecycle h.isPublishing = some s') :
    Played h (.lookForwarder k) [] (h.setStream k s')
  | pull {k : Nat} {s : Stream α} (next : Option (Notification α)) (hk : h.streams[k]? = some s)
      (hselecting : s.isSelecting = true)
      (hidle : s.notice? h.connection.lifecycle h.isPublishing = none) :
    Played h (.pull k next) [] (h.setStream k (s.pull next))

theorem played_of_play? {move : Move α} (hplay : h.play? move = some (h', events)) :
    Played h move events h' := by
  -- Callers may call a handler that is not dropped.
  have hguard {result : Option (Result α)} (h₁ : (if h.dropped then none else result) =
      some (h', events)) : h.dropped = false ∧ result = some (h', events) := by
    obtain ⟨hdropped, hresult⟩ := Option.ite_none_left_eq_some.mp h₁
    exact ⟨Bool.not_eq_true _ ▸ hdropped, hresult⟩
  cases move with
  | subscribe i =>
    obtain ⟨hheld, hresult⟩ := hguard hplay
    exact .subscribe hheld (Prod.ext (Option.some.inj hresult) rfl)
  | dropStream k =>
    have hresult : h.dropStream k = (h', events) := Option.some.inj hplay
    by_cases hk : ∃ s, h.streams[k]? = some s ∧ s.held = true
    · obtain ⟨s, hk, hheld⟩ := hk
      rw [dropStream_of_held hk hheld] at hresult
      obtain ⟨rfl, rfl⟩ := Prod.mk.inj hresult
      exact .dropStream hk hheld
    · rw [dropStream_of_not_held hk] at hresult
      obtain ⟨rfl, rfl⟩ := Prod.mk.inj hresult
      exact .dropNothing hk
  | poll k =>
    obtain ⟨rfl, rfl⟩ := Prod.mk.inj (Option.some.inj hplay)
    rw [Handler.poll]
    cases hk : h.streams[k]? with
    | none => exact .pollNothing hk
    | some s => exact .poll hk
  | shutdown =>
    obtain ⟨hheld, hresult⟩ := hguard hplay
    have hresult : h.shutdown = (h', events) := Option.some.inj hresult
    rw [Handler.shutdown] at hresult
    by_cases hdown : h.isShutDown = true
    · rw [if_pos hdown] at hresult
      obtain ⟨rfl, rfl⟩ := Prod.mk.inj hresult
      exact .shutdownAgain hheld hdown
    · rw [if_neg hdown, finish, measure_of_recordings _ rfl] at hresult
      obtain ⟨rfl, rfl⟩ := Prod.mk.inj hresult
      exact .shutdown hheld (by simpa [isShutDown] using hdown)
  | finishShutdown =>
    obtain ⟨hheld, hresult⟩ := hguard hplay
    obtain ⟨⟨hclosing, hover⟩, -⟩ := Option.ite_none_right_eq_some.mp hresult
    rw [finishShutdown?_of_over hclosing hover] at hresult
    obtain ⟨rfl, rfl⟩ := Prod.mk.inj (Option.some.inj hresult)
    exact .finishShutdown hheld hclosing hover rfl
  | drop =>
    obtain ⟨hheld, hresult⟩ := hguard hplay
    obtain ⟨rfl, rfl⟩ := Prod.mk.inj (Option.some.inj hresult)
    exact .drop hheld
  | lookLoop ended =>
    obtain ⟨result, hnotice, hresult⟩ := Option.map_eq_some_iff.mp hplay
    obtain ⟨rfl, rfl⟩ := Prod.mk.inj hresult
    exact .lookLoop hnotice
  | hearLoop r =>
    obtain ⟨hidle, hresult⟩ := Option.ite_none_right_eq_some.mp hplay
    obtain ⟨rfl, rfl⟩ := Prod.mk.inj (Option.some.inj hresult)
    exact .hearLoop r (Option.map_eq_none_iff.mp (Option.isNone_iff_eq_none.mp hidle))
  | lookEvictor =>
    obtain ⟨result, hnotice, hresult⟩ := Option.map_eq_some_iff.mp hplay
    obtain ⟨rfl, rfl⟩ := Prod.mk.inj hresult
    exact .lookEvictor hnotice
  | hearEvictor outcome =>
    obtain ⟨rfl, rfl⟩ := Prod.mk.inj (Option.some.inj hplay)
    exact .hearEvictor outcome
  | lookFollower =>
    obtain ⟨result, hnotice, hresult⟩ := Option.map_eq_some_iff.mp hplay
    obtain ⟨rfl, rfl⟩ := Prod.mk.inj hresult
    exact .lookFollower hnotice
  | lookForwarder k =>
    obtain ⟨h₁, hnotice, hresult⟩ := Option.map_eq_some_iff.mp hplay
    obtain ⟨rfl, rfl⟩ := Prod.mk.inj hresult
    obtain ⟨s, hk, hs⟩ := Option.bind_eq_some_iff.mp hnotice
    obtain ⟨s', hs', rfl⟩ := Option.map_eq_some_iff.mp hs
    exact .lookForwarder hk hs'
  | pull k next =>
    obtain ⟨hready, hresult⟩ := Option.ite_none_right_eq_some.mp hplay
    obtain ⟨rfl, rfl⟩ := Prod.mk.inj (Option.some.inj hresult)
    obtain ⟨hselecting, hidle⟩ := Bool.and_eq_true_iff.mp hready
    rw [Handler.pull]
    cases hk : h.streams[k]? with
    | none => simp [isSelecting, hk] at hselecting
    | some s =>
      refine .pull next hk (by simpa [isSelecting, hk] using hselecting) ?_
      simpa [noticeForwarder?, hk] using hidle

theorem subscribes_of_play? {i : Interest} (hplay : h.play? (.subscribe i) = some (h', events)) :
    Subscribes h i ((h', events), (h.subscribe i).2) := by
  cases played_of_play? hplay with
  | subscribe _ hcall =>
    rw [hcall]
    exact subscribes_of_eq hcall

theorem step_of_play? {move : Move α} (hplay : h.play? move = some (h', events)) :
    Step h events h' := by
  cases played_of_play? hplay with
  | @subscribe i _ _ _ hheld hcall =>
    have step := Step.subscribe i hheld
    rwa [hcall] at step
  | @dropStream k _ hk hheld =>
    have step := Step.dropStream h k
    rwa [dropStream_of_held hk hheld] at step
  | @dropNothing k hk =>
    have step := Step.dropStream h k
    rwa [dropStream_of_not_held hk] at step
  | @poll k _ hk | @pollNothing k hk =>
    have step := Step.poll h k
    rwa [Handler.poll, hk] at step
  | shutdown hheld hrunning =>
    have step := Step.shutdown hheld
    rwa [Handler.shutdown, if_neg (by simp [isShutDown, hrunning]), finish,
      measure_of_recordings _ rfl] at step
  | shutdownAgain hheld hdown =>
    have step := Step.shutdown hheld
    rwa [Handler.shutdown, if_pos hdown] at step
  | finishShutdown hheld hclosing hover hcrash =>
    have hstep := finishShutdown?_of_over hclosing hover
    rw [← hcrash] at hstep
    exact .finishShutdown hheld hstep
  | drop hheld => exact .drop hheld
  | lookLoop hnotice => exact .noticeLoop (congrArg (Option.map _) hnotice)
  | hearLoop r hidle => exact .answerLoop r (congrArg (Option.map _) hidle)
  | lookEvictor hnotice => exact .noticeEvictor (congrArg (Option.map _) hnotice)
  | hearEvictor outcome => exact .answerEvictor h outcome
  | lookFollower hnotice => exact .noticeFollower (congrArg (Option.map _) hnotice)
  | @lookForwarder k _ _ hk hnotice =>
    refine .noticeForwarder (k := k) ?_
    rw [noticeForwarder?, hk, Option.bind_some, hnotice, Option.map_some]
  | @pull k _ next hk _ hidle =>
    have hquiet : h.noticeForwarder? k = none := by
      rw [noticeForwarder?, hk, Option.bind_some, hidle, Option.map_none]
    have step := Step.pull next hquiet
    rwa [Handler.pull, hk] at step

/-! ### Turns -/

/-- A turn of a run: the handler that a party finds, its move, and what the move does. -/
structure Turn (α : Type) where
  before : Handler α
  move : Move α
  events : List Event

/-- One turn is taken. -/
def Plays (h : Handler α) (turns : List (Turn α)) (h' : Handler α) : Prop :=
  ∃ move events, h.play? move = some (h', events) ∧ turns = [⟨h, move, events⟩]

/-- A run of a handler that is built from settings. -/
def Run (settings : Settings) (metrics : Option Metrics) (turns : List (Turn α))
    (h : Handler α) : Prop :=
  ∃ h₀ : Handler α, build settings metrics = .ok h₀ ∧ InterestMux.Course Plays h₀ turns h

/-- What happens in a list of turns. -/
def eventsOf (turns : List (Turn α)) : List Event :=
  turns.flatMap Turn.events

theorem eventsOf_concat (turns : List (Turn α)) (t : Turn α) :
    eventsOf (turns ++ [t]) = eventsOf turns ++ t.events := by
  simp [eventsOf]

section Run

variable {settings : Settings} {metrics : Option Metrics} {turns : List (Turn α)}
  {h h' : Handler α}

theorem Run.play (run : Run settings metrics turns h) (move : Move α) {events : List Event}
    (hplay : h.play? move = some (h', events)) :
    Run settings metrics (turns ++ [⟨h, move, events⟩]) h' :=
  run.imp fun _ hrun => ⟨hrun.1, .step hrun.2 ⟨move, events, hplay, rfl⟩⟩

theorem Run.append {later : List (Turn α)} (run : Run settings metrics turns h)
    (course : InterestMux.Course Plays h later h') : Run settings metrics (turns ++ later) h' :=
  run.imp fun _ hrun => ⟨hrun.1, hrun.2.append course⟩

/-- What holds of a handler that is built, and stays with every move that a run can make, holds at
the end of every run. -/
@[elab_as_elim]
theorem Run.induction {P : List (Turn α) → Handler α → Prop} (run : Run settings metrics turns h)
    (start : ∀ h₀ : Handler α, build settings metrics = .ok h₀ → P [] h₀)
    (play : ∀ turns h move events h', Run settings metrics turns h →
      h.play? move = some (h', events) → P turns h → P (turns ++ [⟨h, move, events⟩]) h') :
    P turns h := by
  obtain ⟨h₀, hbuild, course⟩ := run
  induction course with
  | start => exact start h₀ hbuild
  | step before last ih =>
    obtain ⟨move, events, hplay, rfl⟩ := last
    exact play _ _ move events _ ⟨h₀, hbuild, before⟩ hplay ih

/-- **Every run is a course.** -/
theorem Run.course (run : Run settings metrics turns h) :
    Course settings metrics (eventsOf turns) h := by
  refine run.induction (fun h₀ hbuild => ⟨h₀, hbuild, .start⟩) ?_
  intro turns h move events h' _ hplay ih
  obtain ⟨h₀, hbuild, course⟩ := ih
  rw [eventsOf_concat]
  exact ⟨h₀, hbuild, .step course (step_of_play? hplay)⟩

/-- **A run can be taken apart at any of its turns**: what comes before it is a run, and what comes
after it goes on from where the turn leads. -/
theorem Run.split {before later : List (Turn α)} {t : Turn α}
    (run : Run settings metrics (before ++ t :: later) h) :
    Run settings metrics before t.before ∧ ∃ h₁,
      t.before.play? t.move = some (h₁, t.events) ∧ InterestMux.Course Plays h₁ later h := by
  obtain ⟨h₀, hbuild, course⟩ := run
  obtain ⟨h₁, h₂, past, ⟨move, events, hplay, hturn⟩, rest⟩ :=
    course.split fun _ _ _ ⟨_, _, _, hturn⟩ => ⟨_, hturn⟩
  obtain rfl := List.singleton_inj.mp hturn
  exact ⟨⟨h₀, hbuild, past⟩, h₂, hplay, rest⟩

theorem Run.split_later {before later : List (Turn α)} {t u : Turn α}
    (run : Run settings metrics (before ++ t :: later) h) (hu : u ∈ later) :
    ∃ earlier h₁, Run settings metrics (before ++ t :: earlier) u.before ∧
      u.before.play? u.move = some (h₁, u.events) := by
  obtain ⟨earlier, rest, rfl⟩ := List.append_of_mem hu
  rw [← List.cons_append, ← List.append_assoc] at run
  obtain ⟨past, h₁, hplay, -⟩ := run.split
  exact ⟨earlier, h₁, past, hplay⟩

end Run

end InterestMux.Handler
