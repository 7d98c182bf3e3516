import InterestMux.Proofs.Connection.Announcements
import InterestMux.Proofs.Handler.Run
import InterestMux.Proofs.Stream.Delivery

/-!
# What subscribers are delivered

Each stream of a handler is fed and read on its own: no move touches two streams, and what the
callers and the other tasks do reaches a stream only through the lifecycle that its forwarder
watches. So every stream hands on what it took from the registry, whatever becomes of the
connection and of the handler.

## Main definitions

* `Handler.Turn.transfers`, `Handler.transfersOf` : what goes into a stream and out of it.
* `Handler.GaveUp` : the connection published that it is exhausted.
* `Handler.Delivers` : a stream copies the notifications of its registry stream.

## Main results

* `Handler.streams_of_play?` : a move leaves the streams alone, opens one, or is a step of one.
* `Handler.Run.delivers` : every stream of every run copies the notifications, in order.
-/

namespace InterestMux.Handler

variable {α : Type}

/-- What goes into a stream and out of it in a turn. -/
def Turn.transfers (k : Nat) (t : Turn α) : List (Stream.Transfer α) :=
  match t.move with
  | .pull j next => if j = k then [.ofNext next] else []
  | .poll j => if j = k then Stream.Transfer.ofPoll (t.before.poll k).1 else []
  | _ => []

/-- What goes into a stream and out of it in a list of turns. -/
def transfersOf (k : Nat) (turns : List (Turn α)) : List (Stream.Transfer α) :=
  turns.flatMap (Turn.transfers k)

/-- The connection published that it is exhausted, after so many attempts. -/
def GaveUp (events : List Event) (n : UInt32) : Prop :=
  .connection (.published (.exhausted n)) ∈ events

theorem transfersOf_concat (k : Nat) (turns : List (Turn α)) (t : Turn α) :
    transfersOf k (turns ++ [t]) = transfersOf k turns ++ t.transfers k := by
  simp [transfersOf]

/-- What a turn does to the streams: nothing, or it opens one, or it is a step of one. -/
inductive Touches (h : Handler α) (t : Turn α) (h' : Handler α) : Prop
  | nothing (hstreams : h'.streams = h.streams) (hnone : ∀ k, t.transfers k = [])
  | opened (i : Interest)
    (hstreams : h'.streams = h.streams ++
      [{ interest := i, capacity := h.streamBuffer, forwarder := { seen := 0 } }])
    (hnone : ∀ k, t.transfers k = [])
  | stepped {k : Nat} {s s' : Stream α} (hk : h.streams[k]? = some s)
    (hstreams : h'.streams = h.streams.set k s')
    (hstep : Stream.Step h.connection.lifecycle h.isPublishing s (t.transfers k) s')
    (hnone : ∀ j, j ≠ k → t.transfers j = [])

/-- A move leaves the streams alone, opens one, or is a step of one, and the buffers of new streams
stay as large as they are. -/
theorem streams_of_play? {h h' : Handler α} {move : Move α} {events : List Event}
    (hplay : h.play? move = some (h', events)) :
    h'.streamBuffer = h.streamBuffer ∧ Touches h ⟨h, move, events⟩ h' := by
  cases played_of_play? hplay with
  | @subscribe i _ _ _ _ hcall =>
    cases subscribes_of_eq hcall with
    | opened _ _ hopened =>
      exact ⟨by rw [hopened], .opened i (by rw [hopened]) fun _ => rfl⟩
    | refused | broke => exact ⟨rfl, .nothing rfl fun _ => rfl⟩
  | @dropStream k s hk => exact ⟨rfl, .stepped hk rfl (.drop s) fun _ _ => rfl⟩
  | @poll k s hk =>
    refine ⟨rfl, .stepped hk rfl ?_ fun j hj => if_neg (Ne.symm hj)⟩
    have htransfers : Turn.transfers k ⟨h, .poll k, []⟩ = Stream.Transfer.ofPoll s.poll.1 := by
      simp [Turn.transfers, Handler.poll, hk]
    rw [htransfers]
    exact .poll s
  | @pollNothing k hk =>
    refine ⟨rfl, .nothing rfl fun j => ?_⟩
    by_cases hjk : k = j
    · simp [Turn.transfers, Handler.poll, ← hjk, hk, Stream.Transfer.ofPoll]
    · simp [Turn.transfers, hjk]
  | lookForwarder hk hnotice => exact ⟨rfl, .stepped hk rfl (.notice hnotice) fun _ _ => rfl⟩
  | @pull k s next hk hselecting hidle =>
    refine ⟨rfl, .stepped hk rfl ?_ fun j hj => if_neg (Ne.symm hj)⟩
    have htransfers : Turn.transfers k ⟨h, .pull k next, []⟩ = [.ofNext next] := if_pos rfl
    rw [htransfers]
    exact .pull next hselecting hidle
  | _ => exact ⟨rfl, .nothing rfl fun _ => rfl⟩

/-- Where there is no stream after a turn, there was none before it, and nothing was transferred. -/
theorem Touches.of_getElem?_eq_none {h h' : Handler α} {t : Turn α} {j : Nat}
    (touches : Touches h t h') (hj : h'.streams[j]? = none) :
    h.streams[j]? = none ∧ t.transfers j = [] := by
  rw [List.getElem?_eq_none_iff] at hj ⊢
  cases touches with
  | nothing hstreams hnone =>
    rw [hstreams] at hj
    exact ⟨hj, hnone j⟩
  | opened i hstreams hnone =>
    rw [hstreams, List.length_append] at hj
    exact ⟨Nat.le_of_succ_le hj, hnone j⟩
  | @stepped k _ _ hk hstreams _ hnone =>
    rw [hstreams, List.length_set] at hj
    obtain ⟨hlt, -⟩ := List.getElem?_eq_some_iff.mp hk
    exact ⟨hj, hnone j (Nat.ne_of_gt (Nat.lt_of_lt_of_le hlt hj))⟩

/-- **A stream after a turn is new, or comes from the stream before it by a step.** -/
theorem Touches.of_getElem?_eq_some {h h' : Handler α} {t : Turn α} {j : Nat} {s' : Stream α}
    (touches : Touches h t h') (hj : h'.streams[j]? = some s') :
    (h.streams[j]? = none ∧ t.transfers j = [] ∧ ∃ i : Interest, s' =
        { interest := i, capacity := h.streamBuffer, forwarder := { seen := 0 } }) ∨
      ∃ s, h.streams[j]? = some s ∧
        Stream.Step h.connection.lifecycle h.isPublishing s (t.transfers j) s' := by
  cases touches with
  | nothing hstreams hnone =>
    rw [hstreams] at hj
    exact .inr ⟨s', hj, hnone j ▸ .rest s'⟩
  | opened i hstreams hnone =>
    rw [hstreams] at hj
    rcases Nat.lt_trichotomy j h.streams.length with hlt | rfl | hgt
    · rw [List.getElem?_append_left hlt] at hj
      exact .inr ⟨s', hj, hnone j ▸ .rest s'⟩
    · rw [List.getElem?_concat_length] at hj
      exact .inl ⟨List.getElem?_eq_none (Nat.le_refl _), hnone _, i, (Option.some.inj hj).symm⟩
    · rw [List.getElem?_eq_none (by rw [List.length_append]; exact hgt)] at hj
      cases hj
  | @stepped k s _ hk hstreams hstep hnone =>
    rw [hstreams] at hj
    by_cases hjk : j = k
    · subst hjk
      rw [List.getElem?_set_self (List.getElem?_eq_some_iff.mp hk).1] at hj
      obtain rfl := Option.some.inj hj
      exact .inr ⟨s, hk, hstep⟩
    · rw [List.getElem?_set_ne (Ne.symm hjk)] at hj
      exact .inr ⟨s', hj, hnone j hjk ▸ .rest s'⟩

section Run

variable {settings : Settings} {metrics : Option Metrics} {turns : List (Turn α)}
  {h : Handler α} {k : Nat} {s : Stream α}

theorem Run.gaveUp (run : Run settings metrics turns h) (n : UInt32)
    (hvalue : h.connection.lifecycle.value = .exhausted n) : GaveUp (eventsOf turns) n := by
  obtain ⟨deeds, course, hdeeds⟩ := run.course.connection
  have hpublished := Connection.Course.published_of_exhausted course hvalue
  rw [hdeeds] at hpublished
  obtain ⟨event, hevent, hloop⟩ := List.mem_filterMap.mp hpublished
  cases event with
  | connection e =>
    obtain rfl := Option.some.inj hloop
    exact hevent
  | _ => cases hloop

theorem streamBuffer_of_build {h₀ : Handler α} (hbuild : build settings metrics = .ok h₀) :
    h₀.streamBuffer = settings.streamBuffer.toNat := by
  rw [build] at hbuild
  split at hbuild
  · cases hbuild
  · split at hbuild
    · cases hbuild
    · obtain rfl := Except.ok.inj hbuild
      rfl

theorem Run.streamBuffer_eq (run : Run settings metrics turns h) :
    h.streamBuffer = settings.streamBuffer.toNat := by
  refine run.induction (fun h₀ hbuild => streamBuffer_of_build hbuild) ?_
  intro turns h move events h' _ hplay ih
  exact (streams_of_play? hplay).1.trans ih

theorem Run.transfersOf_eq_nil (run : Run settings metrics turns h) :
    h.streams[k]? = none → transfersOf k turns = [] := by
  refine run.induction (fun _ _ _ => rfl) ?_
  intro turns h move events h' _ hplay ih hk
  obtain ⟨hbefore, hnone⟩ := (streams_of_play? hplay).2.of_getElem?_eq_none hk
  rw [transfersOf_concat, ih hbefore, hnone]
  rfl

/-- **What holds of a new stream, and stays with every step of a stream, holds of every stream of a
run**, with what went into it and out of it, and with what the connection is known to have
published. -/
theorem Run.stream_induction
    {P : (UInt32 → Prop) → List (Stream.Transfer α) → Stream α → Prop}
    (run : Run settings metrics turns h)
    (mono : ∀ {gaveUp gaveUp' transfers s}, P gaveUp transfers s → (∀ n, gaveUp n → gaveUp' n) →
      P gaveUp' transfers s)
    (new : ∀ gaveUp (i : Interest), P gaveUp []
      { interest := i, capacity := settings.streamBuffer.toNat, forwarder := { seen := 0 } })
    (step : ∀ {gaveUp lifecycle publishing transfers s later s'}, P gaveUp transfers s →
      (∀ n, lifecycle.value = .exhausted n → gaveUp n) →
      Stream.Step lifecycle publishing s later s' → P gaveUp (transfers ++ later) s') :
    ∀ s, h.streams[k]? = some s → P (GaveUp (eventsOf turns)) (transfersOf k turns) s := by
  refine run.induction (fun h₀ hbuild s hk => ?_) ?_
  · rw [(build_spec hbuild).2.1, List.getElem?_nil] at hk
    cases hk
  · intro turns h move events h' before hplay ih s' hk
    have hmore : ∀ n, GaveUp (eventsOf turns) n →
        GaveUp (eventsOf (turns ++ [⟨h, move, events⟩])) n := fun n hn => by
      rw [GaveUp, eventsOf_concat]
      exact List.mem_append_left _ hn
    rw [transfersOf_concat]
    rcases (streams_of_play? hplay).2.of_getElem?_eq_some hk with
      ⟨hunopened, hnone, i, rfl⟩ | ⟨s, hs, hstep⟩
    · rw [before.transfersOf_eq_nil hunopened, hnone, before.streamBuffer_eq]
      exact new _ i
    · exact mono (step (ih s hs) before.gaveUp hstep) hmore

/-- **Every stream of a run has handed on what it took.** -/
theorem Run.faithful (run : Run settings metrics turns h) (hk : h.streams[k]? = some s) :
    Stream.Faithful (GaveUp (eventsOf turns)) settings.streamBuffer.toNat (transfersOf k turns)
      s :=
  run.stream_induction
    (P := fun gaveUp transfers s =>
      Stream.Faithful gaveUp settings.streamBuffer.toNat transfers s)
    .mono (fun _ i => Stream.faithful_new i 0) .step s hk

/-- The stream copies the notifications of the registry, without their sources. -/
structure Delivers (settings : Settings) (turns : List (Turn α)) (k : Nat) (s : Stream α) :
    Prop where
  length_buffer_le : s.buffer.length ≤ settings.streamBuffer.toNat
  /-- The forwarder takes no more than the buffer holds, and one, before the subscriber reads. -/
  length_pulls_le : (Stream.pulls (transfersOf k turns)).length ≤
    (Stream.reads (transfersOf k turns)).length + settings.streamBuffer.toNat + 1
  /-- What was read, what is buffered and what waits for room are the changes of the notifications
  that were taken, one for each and in order, and then at most the failure of the connection. -/
  copied : s.held = true → ∃ copies failure,
    Stream.reads (transfersOf k turns) ++ s.buffer ++ s.waiting = copies ++ failure ∧
    List.Forall₂ Stream.Copies (Stream.pulls (transfersOf k turns)) copies ∧
    (failure = [] ∨ ∃ n, GaveUp (eventsOf turns) n ∧ failure = [.error (.connectionExhausted n)])
  /-- Unless the connection gives up, the stream ends when the registry has no more notifications,
  and the changes of all of them are read. -/
  ended : s.held = true → (∀ n, ¬ GaveUp (eventsOf turns) n) → s.poll.1 = .ended →
    .dried ∈ transfersOf k turns ∧
      List.Forall₂ Stream.Copies (Stream.pulls (transfersOf k turns))
        (Stream.reads (transfersOf k turns))

/-- **Every stream is a faithful copy of its registry stream**, for as long as it is held: the
subscriber reads the changes that the forwarder took, each as it is and in order, without the
sources, and then at most one failure; the forwarder runs ahead of the subscriber by no more than
the buffer and one; and unless the connection gives up, the stream does not end before the registry
stream has. -/
theorem Run.delivers (run : Run settings metrics turns h) (hk : h.streams[k]? = some s) :
    Delivers settings turns k s := by
  have faithful := run.faithful hk
  constructor
  case length_buffer_le => exact faithful.length_buffer_le
  case length_pulls_le => exact faithful.length_pulls_le
  case copied =>
    intro hheld
    obtain ⟨failure, hconcludes, hcopied⟩ := faithful.copied hheld
    exact ⟨_, failure, hcopied, Stream.forall₂_copies _, hconcludes.eq_nil_or⟩
  case ended =>
    intro hheld hgoing hended
    obtain ⟨hdried, hreads⟩ := faithful.of_ended hheld hgoing hended
    exact ⟨hdried, hreads ▸ Stream.forall₂_copies _⟩

end Run

/-- A subscriber reads a change of each kind, two of them with a source, through a buffer for one,
while the handler is shut down and dropped, and the stream ends when the registry has no more. -/
theorem delivers_after_shutdown :
    ∃ (turns : List (Turn Nat)) (h : Handler Nat) (s : Stream Nat),
      Run { streamBuffer := 1 } none turns h ∧ h.streams[0]? = some s ∧ h.dropped = true ∧
      Stream.pulls (transfersOf 0 turns) =
        [.tagged ⟨.modify, 7⟩ default, .plain ⟨.add, 8⟩, .tagged ⟨.delete, 7⟩ default] ∧
      Stream.reads (transfersOf 0 turns) =
        [.ok ⟨.modify, 7⟩, .ok ⟨.add, 8⟩, .ok ⟨.delete, 7⟩] ∧
      s.held = true ∧ s.poll.1 = .ended ∧ Delivers { streamBuffer := 1 } turns 0 s := by
  have built : Run { streamBuffer := 1 } none [] (_ : Handler Nat) := ⟨_, rfl, .start⟩
  have opened := built.play (.subscribe (.application "a")) rfl
  have selecting := opened.play (.lookForwarder 0) rfl
  have taken := selecting.play (.pull 0 (some (.tagged ⟨.modify, 7⟩ default))) rfl
  have delivered := (taken.play (.lookForwarder 0) rfl).play (.lookForwarder 0) rfl
  have full := delivered.play (.pull 0 (some (.plain ⟨.add, 8⟩))) rfl
  have closing := (full.play .shutdown rfl).play (.lookLoop none) rfl
  have dropped := (closing.play .finishShutdown rfl).play .drop rfl
  have first := (dropped.play (.poll 0) rfl).play (.lookForwarder 0) rfl
  have second := (first.play (.poll 0) rfl).play (.lookForwarder 0) rfl
  have unwatched := (second.play (.lookForwarder 0) rfl).play (.lookForwarder 0) rfl
  have last := unwatched.play (.pull 0 (some (.tagged ⟨.delete, 7⟩ default))) rfl
  have looking := (last.play (.lookForwarder 0) rfl).play (.lookForwarder 0) rfl
  have third := looking.play (.poll 0) rfl
  have run := third.play (.pull 0 none) rfl
  exact ⟨_, _, _, run, rfl, rfl, rfl, rfl, rfl, rfl, run.delivers rfl⟩

end InterestMux.Handler
