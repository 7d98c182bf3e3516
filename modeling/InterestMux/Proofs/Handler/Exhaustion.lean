import InterestMux.Proofs.Handler.Delivery
import InterestMux.Proofs.Handler.Engine
import InterestMux.Proofs.Stream.Exhaustion

/-!
# Exhaustion reaches every stream

When the connection gives up, every forwarder learns of it: one that waits for a notification is
woken, one that waits for room in its buffer looks afterwards, and one that has not yet run looks
first of all. It does not matter whether the handler is shut down or dropped in the meantime,
because the last published state stays in view when nobody is left who publishes. So each stream
that is still going hands on what its forwarder took before, then the one failure, and ends.

## Main definitions

* `Handler.Informed` : what becomes of a stream after the connection gave up.
* `Handler.Exhaustion` : the failure of the connection reaches the stream, and no other does.

## Main results

* `Handler.Run.alert` : no forwarder misses that the connection gave up.
* `Handler.Run.exhausted_of_gaveUp` : an exhausted connection stays exhausted.
* `Handler.Run.exhaustion` : exhaustion reaches every stream exactly once.
-/

namespace InterestMux.Handler

variable {α : Type}

theorem transfersOf_append (k : Nat) (turns later : List (Turn α)) :
    transfersOf k (turns ++ later) = transfersOf k turns ++ transfersOf k later :=
  List.flatMap_append

theorem GaveUp.of_turn {before later : List (Turn α)} {t : Turn α} {n : UInt32}
    (hgaveUp : GaveUp t.events n) : GaveUp (eventsOf (before ++ t :: later)) n :=
  List.mem_flatMap.mpr ⟨t, List.mem_append_right _ List.mem_cons_self, hgaveUp⟩

theorem transfers_eq_nil_of_events {h h' : Handler α} {move : Move α} {events : List Event}
    {e : Event} (hplay : h.play? move = some (h', events)) (he : e ∈ events) (k : Nat) :
    Turn.transfers k ⟨h, move, events⟩ = [] := by
  cases played_of_play? hplay with
  | poll | pollNothing | pull => cases he
  | _ => rfl

section Run

variable {settings : Settings} {metrics : Option Metrics} {turns before later : List (Turn α)}
  {t : Turn α} {h : Handler α} {k : Nat} {s : Stream α} {n : UInt32}

/-- **No forwarder misses that the connection gave up.** -/
theorem Run.alert (run : Run settings metrics turns h) :
    ∀ (k : Nat) (s : Stream α), h.streams[k]? = some s →
      Stream.Alert h.connection.lifecycle h.isPublishing s := by
  refine run.induction (fun h₀ hbuild k s hk => ?_) ?_
  · rw [(build_spec hbuild).2.1, List.getElem?_nil] at hk
    cases hk
  · intro turns h move events h' before hplay ih k s' hk
    have engine := (step_of_play? hplay).engine
    have alert : Stream.Alert h.connection.lifecycle h.isPublishing s' := by
      rcases (streams_of_play? hplay).2.of_getElem?_eq_some hk with
        ⟨-, -, i, rfl⟩ | ⟨s, hs, hstep⟩
      · exact Stream.alert_new i _
      · exact (ih k s hs).step hstep
    exact alert.of_later engine.lifecycle_eq_or_lt engine.isPublishing_eq_false

/-- **An exhausted connection stays exhausted**, so there is only one number of attempts. -/
theorem Run.exhausted_of_gaveUp (run : Run settings metrics turns h)
    (hgaveUp : GaveUp (eventsOf turns) n) : h.connection.lifecycle.value = .exhausted n := by
  obtain ⟨deeds, course, hdeeds⟩ := run.course.connection
  have hpublished : .published (.exhausted n) ∈ (eventsOf turns).filterMap Event.loop? :=
    List.mem_filterMap.mpr ⟨_, hgaveUp, rfl⟩
  rw [← hdeeds] at hpublished
  exact (Connection.Course.exhausted_of_published course hpublished).1

theorem step_of_transfers {h' : Handler α} (hplay : t.before.play? t.move = some (h', t.events))
    {transfer : Stream.Transfer α} (htransfer : transfer ∈ t.transfers k) :
    ∃ s s', t.before.streams[k]? = some s ∧
      Stream.Step t.before.connection.lifecycle t.before.isPublishing s (t.transfers k) s' := by
  have touches : Touches t.before t h' := (streams_of_play? hplay).2
  have hsome : t.transfers k ≠ [] := List.ne_nil_of_mem htransfer
  cases hk : h'.streams[k]? with
  | none => exact absurd (touches.of_getElem?_eq_none hk).2 hsome
  | some s' =>
    rcases touches.of_getElem?_eq_some hk with ⟨-, hnone, -⟩ | ⟨s, hs, hstep⟩
    · exact absurd hnone hsome
    · exact ⟨s, s', hs, hstep⟩

/-- Once the connection has given up, no forwarder takes a notification. -/
theorem Run.quiet (run : Run settings metrics (before ++ t :: later) h)
    (hgaveUp : GaveUp t.events n) (k : Nat) :
    ∀ transfer ∈ transfersOf k (t :: later), ∃ d, transfer = .read d := by
  intro transfer hall
  obtain ⟨u, hu, htransfer⟩ := List.mem_flatMap.mp hall
  rcases List.mem_cons.mp hu with rfl | hu
  · obtain ⟨-, h₁, hplay, -⟩ := run.split
    have hnone : u.transfers k = [] := transfers_eq_nil_of_events hplay hgaveUp k
    rw [hnone] at htransfer
    cases htransfer
  · obtain ⟨earlier, h₁, past, hplay⟩ := run.split_later hu
    obtain ⟨s, s', hs, hstep⟩ := step_of_transfers hplay htransfer
    have alert := Run.alert past k s hs
    have hvalue := Run.exhausted_of_gaveUp past hgaveUp.of_turn
    exact alert.reads_of_step hvalue hstep transfer htransfer

/-- A stream that is opened when the connection has given up never takes a notification. -/
theorem Run.isPrompt (run : Run settings metrics (before ++ t :: later) h)
    (hgaveUp : GaveUp t.events n) (hlate : t.before.streams.length ≤ k) :
    ∀ s, h.streams[k]? = some s → s.IsPrompt := by
  obtain ⟨past, h₁, hplay, course⟩ := run.split
  clear run
  induction course with
  | start =>
    intro s hk
    rcases (streams_of_play? hplay).2.of_getElem?_eq_some hk with ⟨-, -, i, rfl⟩ | ⟨s₀, hs₀, -⟩
    · trivial
    · rw [List.getElem?_eq_none hlate] at hs₀
      cases hs₀
  | @step history h _ h' course last ih =>
    obtain ⟨move, events, hlast, rfl⟩ := last
    have reached : Run settings metrics (before ++ t :: history) h := by
      simpa using (Run.play past t.move hplay).append course
    intro s hk
    rcases (streams_of_play? hlast).2.of_getElem?_eq_some hk with ⟨-, -, i, rfl⟩ | ⟨s₀, hs₀, hstep⟩
    · trivial
    · have alert := reached.alert k s₀ hs₀
      exact (ih s₀ hs₀).step alert (reached.exhausted_of_gaveUp hgaveUp.of_turn) hstep

theorem Run.isSelecting_eq_false (run : Run settings metrics (before ++ t :: later) h)
    (hgaveUp : GaveUp t.events n) (hlate : t.before.streams.length ≤ k) :
    h.isSelecting k = false := by
  rw [isSelecting]
  cases hk : h.streams[k]? with
  | none => rfl
  | some s => exact (run.isPrompt hgaveUp hlate s hk).isSelecting_eq_false

/-- What becomes of a stream when the connection gave up after so many attempts. Notifications that
were taken before that stay in their place. -/
structure Informed (before : List (Turn α)) (t : Turn α) (later : List (Turn α)) (n : UInt32)
    (h : Handler α) (k : Nat) (s : Stream α) : Prop where
  /-- The forwarder takes no more notifications. -/
  quiet : ∀ transfer ∈ transfersOf k (t :: later), ∃ d, transfer = .read d
  /-- If the stream was not open yet, its forwarder never even waits for one. -/
  late : t.before.streams.length ≤ k → transfersOf k before = [] ∧
    (∀ u ∈ t :: later, u.before.isSelecting k = false) ∧ s.isSelecting = false
  /-- Unless it had come to the end of the notifications, the forwarder is over only when it has
  sent the failure, after all that it took. -/
  sent : s.held = true → .dried ∉ transfersOf k before → s.forwarder.isRunning = false →
    Stream.reads (transfersOf k (before ++ t :: later)) ++ s.buffer =
      (Stream.pulls (transfersOf k before)).map Stream.copy ++ [.error (.connectionExhausted n)]
  /-- So the stream ends only when the subscriber has read all this. -/
  ended : s.held = true → .dried ∉ transfersOf k before → s.poll.1 = .ended →
    Stream.reads (transfersOf k (before ++ t :: later)) =
      (Stream.pulls (transfersOf k before)).map Stream.copy ++ [.error (.connectionExhausted n)]
  /-- Until then nothing else is in the stream, and the buffer is full or the forwarder can go on,
  which brings it nearer to sending the failure. -/
  going : s.held = true → s.forwarder.isRunning = true →
    (∃ failure, Stream.reads (transfersOf k (before ++ t :: later)) ++ s.buffer ++ s.waiting =
        (Stream.pulls (transfersOf k before)).map Stream.copy ++ failure ∧
      (failure = [] ∨ failure = [.error (.connectionExhausted n)])) ∧
    (s.IsBlocked ∨ ∃ s', h.noticeForwarder? k = some (h.setStream k s') ∧
      s'.looksLeft < s.looksLeft)

/-- The failure of the connection reaches the stream once, and no other failure does. -/
structure Exhaustion (turns : List (Turn α)) (h : Handler α) (k : Nat) (s : Stream α) : Prop where
  /-- The connection gives up once. -/
  sole : ∀ n m, GaveUp (eventsOf turns) n → GaveUp (eventsOf turns) m → m = n
  /-- All failures that the subscriber reads, or could still read, are published. -/
  blamed : ∀ reason,
    .error reason ∈ Stream.reads (transfersOf k turns) ++ s.buffer ++ s.waiting →
      ∃ n, GaveUp (eventsOf turns) n ∧ reason = .connectionExhausted n
  informed : ∀ before t later n, turns = before ++ t :: later → GaveUp t.events n →
    Informed before t later n h k s

theorem Run.blames (run : Run settings metrics turns h) (hk : h.streams[k]? = some s) :
    Stream.Blames (GaveUp (eventsOf turns)) (transfersOf k turns) s :=
  run.stream_induction (P := Stream.Blames) .mono (fun _ _ _ hreason => by cases hreason) .step s hk

/-- What was taken before the connection gave up is all that is ever taken. -/
theorem pulls_of_reads (transfers : List (Stream.Transfer α)) {later : List (Stream.Transfer α)}
    (hquiet : ∀ transfer ∈ later, ∃ d, transfer = .read d) :
    Stream.pulls (transfers ++ later) = Stream.pulls transfers ∧
      (.dried ∈ transfers ++ later → .dried ∈ transfers) := by
  constructor
  · have hnone : Stream.pulls later = [] :=
      List.filterMap_eq_nil_iff.mpr fun transfer htransfer => by
        obtain ⟨d, rfl⟩ := hquiet transfer htransfer
        rfl
    rw [Stream.pulls_append, hnone, List.append_nil]
  · intro hdried
    refine (List.mem_append.mp hdried).resolve_right fun hlater => ?_
    obtain ⟨d, hd⟩ := hquiet _ hlater
    cases hd

theorem Run.gaveUp_unique {m : UInt32} (run : Run settings metrics turns h)
    (hn : GaveUp (eventsOf turns) n) (hm : GaveUp (eventsOf turns) m) : m = n :=
  ConnectionState.exhausted.inj
    ((run.exhausted_of_gaveUp hm).symm.trans (run.exhausted_of_gaveUp hn))

/-- **A forwarder that is over has sent the failure**, unless it had come to the end of the
notifications before. -/
theorem Run.sent (run : Run settings metrics (before ++ t :: later) h)
    (hgaveUp : GaveUp t.events n) (hk : h.streams[k]? = some s) (hheld : s.held = true)
    (hdried : .dried ∉ transfersOf k before) (hover : s.forwarder.isRunning = false) :
    Stream.reads (transfersOf k (before ++ t :: later)) ++ s.buffer =
      (Stream.pulls (transfersOf k before)).map Stream.copy ++
        [.error (.connectionExhausted n)] := by
  obtain ⟨hpulls, hend⟩ := pulls_of_reads (transfersOf k before) (run.quiet hgaveUp k)
  rw [← transfersOf_append] at hpulls hend
  have sent := (run.faithful hk).of_over hheld hover
  rw [hpulls] at sent
  rcases sent with ⟨hlate, -⟩ | ⟨m, hm, hall⟩
  · exact absurd (hend hlate) hdried
  · rw [hall, run.gaveUp_unique hgaveUp.of_turn hm]

theorem Run.informed (run : Run settings metrics (before ++ t :: later) h)
    (hgaveUp : GaveUp t.events n) (hk : h.streams[k]? = some s) :
    Informed before t later n h k s := by
  have hquiet := run.quiet hgaveUp k
  constructor
  case quiet => exact hquiet
  case late =>
    intro hlate
    have hunopened : t.before.streams[k]? = none := List.getElem?_eq_none hlate
    refine ⟨Run.transfersOf_eq_nil run.split.1 hunopened, fun u hu => ?_, ?_⟩
    · rcases List.mem_cons.mp hu with rfl | hu
      · rw [isSelecting, hunopened]
        rfl
      · obtain ⟨earlier, h₁, past, -⟩ := run.split_later hu
        exact Run.isSelecting_eq_false past hgaveUp hlate
    · exact (run.isPrompt hgaveUp hlate s hk).isSelecting_eq_false
  case sent => exact run.sent hgaveUp hk
  case ended =>
    intro hheld hdried hended
    obtain ⟨hbuffer, hover⟩ := Stream.of_poll_ended hended
    simpa [hbuffer] using run.sent hgaveUp hk hheld hdried hover
  case going =>
    intro hheld hrunning
    have hvalue := run.exhausted_of_gaveUp hgaveUp.of_turn
    obtain ⟨failure, hconcludes, hcopied⟩ := (run.faithful hk).copied hheld
    obtain ⟨hpulls, -⟩ := pulls_of_reads (transfersOf k before) hquiet
    rw [← transfersOf_append] at hpulls
    rw [hpulls] at hcopied
    refine ⟨⟨failure, hcopied, hconcludes.eq_nil_or.imp_right ?_⟩, ?_⟩
    · rintro ⟨m, hm, rfl⟩
      rw [run.gaveUp_unique hgaveUp.of_turn hm]
    · refine (Stream.Alert.blocked_or_notice? (run.alert k s hk) hvalue hrunning).imp_right ?_
      rintro ⟨s', hnotice, hless⟩
      exact ⟨s', by rw [noticeForwarder?, hk, Option.bind_some, hnotice]; rfl, hless⟩

/-- **Exhaustion reaches every stream exactly once.** A stream that is not dropped, and whose
forwarder has not come to the end of the notifications, can end only when its subscriber has read
copies of all that was taken and then the failure of the connection; and the forwarder is never idle
before it has sent this. A stream that is opened after exhaustion takes nothing. No stream hands on
a failure if the connection does not give up. -/
theorem Run.exhaustion (run : Run settings metrics turns h) (hk : h.streams[k]? = some s) :
    Exhaustion turns h k s := by
  constructor
  case sole => exact fun _ _ => run.gaveUp_unique
  case blamed => exact run.blames hk
  case informed =>
    rintro before t later n rfl hgaveUp
    exact run.informed hgaveUp hk

end Run

/-- The connection gives up while the forwarder of a first stream is blocked on a full buffer. A
second stream is opened, and the handler is shut down and dropped before either forwarder runs
again. Both subscribers read what was taken, then the failure, and their streams end. -/
theorem exhaustion_of_blocked_and_late :
    ∃ (turns : List (Turn Nat)) (h : Handler Nat) (s late : Stream Nat),
      Run { maxReconnectAttempts := some 1, streamBuffer := 1 } none turns h ∧ h.dropped = true ∧
      h.streams = [s, late] ∧ s.poll.1 = .ended ∧ late.poll.1 = .ended ∧
      Stream.reads (transfersOf 0 turns) =
        [.ok ⟨.add, 7⟩, .ok ⟨.delete, 7⟩, .error (.connectionExhausted 1)] ∧
      Stream.reads (transfersOf 1 turns) = [.error (.connectionExhausted 1)] ∧
      Exhaustion turns h 0 s ∧ Exhaustion turns h 1 late := by
  have built : Run { maxReconnectAttempts := some 1, streamBuffer := 1 } none []
      (_ : Handler Nat) := ⟨_, rfl, .start⟩
  have opened := (built.play (.subscribe (.application "a")) rfl).play (.lookForwarder 0) rfl
  have taken := opened.play (.pull 0 (some (.tagged ⟨.add, 7⟩ default))) rfl
  have delivered := (taken.play (.lookForwarder 0) rfl).play (.lookForwarder 0) rfl
  have blocked := delivered.play (.pull 0 (some (.plain ⟨.delete, 7⟩))) rfl
  have gaveUp := (blocked.play (.lookLoop none) rfl).play (.hearLoop (.refused (.other "no"))) rfl
  have second := gaveUp.play (.subscribe .all) rfl
  have dropped := ((second.play .shutdown rfl).play .finishShutdown rfl).play .drop rfl
  have add := (dropped.play (.poll 0) rfl).play (.lookForwarder 0) rfl
  have delete := (add.play (.poll 0) rfl).play (.lookForwarder 0) rfl
  have failed := (delete.play (.lookForwarder 0) rfl).play (.poll 0) rfl
  have late := (failed.play (.lookForwarder 1) rfl).play (.lookForwarder 1) rfl
  have run := late.play (.poll 1) rfl
  exact ⟨_, _, _, _, run, rfl, rfl, rfl, rfl, rfl, rfl, run.exhaustion rfl, run.exhaustion rfl⟩

end InterestMux.Handler
