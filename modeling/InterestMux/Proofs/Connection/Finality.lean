import InterestMux.Proofs.Connection.Course
import InterestMux.Proofs.Loop.Stopping
import Mathlib.Tactic.ByContra

/-!
# Terminal lifecycle states

Two parties publish lifecycle states: the loop, and a call to close that is not in charge of the
loop. The loop publishes nothing after a terminal state of its own. But a second call to close
does not wait for the loop; it publishes the closed state at once, and a loop that has not yet run,
or is releasing a failed channel, publishes other states after it. At all other points a loop that
is to stop only has the closed state left to publish.

## Main definitions

* `Connection.Terminated` : how a terminal state can have come about.
* `Connection.Settled` : the lifecycle shows a terminal state for good.

## Main results

* `Connection.Course.final_iff` : a terminal state is final exactly if the loop is settled.
-/

namespace InterestMux.Connection

variable {T : Type}

/-- The states published in a history, oldest first. -/
def publications (h : List (Deed T)) : List ConnectionState :=
  h.filterMap Deed.publication?

theorem mem_publications_loop {events : List (Loop.Event T)} {state : ConnectionState} :
    state ∈ publications (events.map .loop) ↔ .published state ∈ events := by
  simp only [publications, List.mem_filterMap, List.mem_map]
  constructor
  · rintro ⟨_, ⟨e, hmem, rfl⟩, he⟩
    cases e with
    | published state' =>
      obtain rfl := Option.some.inj he
      exact hmem
    | _ => cases he
  · exact fun hmem => ⟨_, ⟨_, hmem, rfl⟩, rfl⟩

theorem foldl_record_lifecycle {c : Connection T} {events : List (Loop.Event T)}
    {v : ConnectionState} (hv : c.lifecycle.value = v)
    (hevents : ∀ state, .published state ∈ events → state = v) :
    (events.foldl record c).lifecycle.value = v := by
  induction events generalizing c with
  | nil => exact hv
  | cons e events ih =>
    refine ih ?_ fun state hmem => hevents state (List.mem_cons_of_mem _ hmem)
    cases e with
    | published state => exact hevents state List.mem_cons_self
    | _ => exact hv

/-! ### How a terminal state comes about -/

/-- A terminal state is the last word of a loop that is over, or else the closed state, published by
a call to close that found no loop, or found another call in charge of it. -/
def Terminated (w : Situation T) : Prop :=
  w.connection.lifecycle.value.isTerminal = true →
    (∃ l, w.connection.loop = some l ∧ l.wait = .finished) ∨
      w.connection.lifecycle.value = .closed ∧ w.connection.cancelled = true ∧
        (w.connection.loop.isSome = true → w.connection.unclaimed = false)

/-- What the loop publishes keeps to this, passage by passage. -/
theorem Terminated.follow {w : Situation T} {l l' : Loop T} {deeds : List (Loop.Record T)}
    {s : Loop.Sight T} (hterminated : Terminated w) (hloop : w.connection.loop = some l)
    (hpassage : Loop.Passage s l deeds l') : Terminated (w.follow l' deeds) := by
  intro hterminal
  rcases lifecycle_of_passage w hpassage with ⟨hsame, hmoved⟩ | hiff
  · rw [hsame] at hterminal ⊢
    rcases hterminated hterminal with ⟨l₀, hl₀, hfinished⟩ | ⟨hclosed, hcancelled, hclaimed⟩
    · -- Only a loop that was not over before can have moved on.
      obtain rfl := Option.some.inj (hloop.symm.trans hl₀)
      rcases hmoved with rfl | ⟨hrunning, -⟩
      · exact .inl ⟨_, foldl_record_loop _ _, hfinished⟩
      · simp [Loop.isRunning, hfinished] at hrunning
    · refine .inr ⟨hclosed, ?_, fun _ => ?_⟩
      · simpa [Situation.follow] using hcancelled
      · simpa [Situation.follow] using hclaimed (by rw [hloop]; rfl)
  · exact .inl ⟨l', foldl_record_loop _ _, hiff.mp hterminal⟩

theorem Course.terminated {channels : Ring Channel} {operand : Watch T} {h : List (Deed T)}
    {w : Situation T} (course : Course channels operand h w) : Terminated w := by
  induction course with
  | start => exact fun hterminal => by cases hterminal
  | @step h w deeds w' _ last ih =>
    cases last with
    | start policy =>
      intro hterminal
      simp only [Connection.start] at hterminal ⊢
      split
      · rename_i hnew
        rw [if_pos hnew] at hterminal
        rw [Bool.and_eq_true, Option.isNone_iff_eq_none] at hnew
        rcases ih hterminal with ⟨l, hl, -⟩ | ⟨-, hcancelled, -⟩
        · rw [hnew.1] at hl
          cases hl
        · simp [hcancelled] at hnew
      · rename_i hold
        rw [if_neg hold] at hterminal
        exact ih hterminal
    | close =>
      have hcloses := closes_close w.connection
      generalize w.connection.close.1 = c, w.connection.closeDeeds = deeds at hcloses ⊢
      cases hcloses with
      | claim hloop hunclaimed =>
        exact fun hterminal => (ih hterminal).imp_right fun h => ⟨h.1, rfl, fun _ => rfl⟩
      | terminal hclaimed _ =>
        exact fun hterminal => (ih hterminal).imp_right fun h => ⟨h.1, rfl, h.2.2⟩
      | publish hclaimed _ => exact fun _ => .inr ⟨rfl, rfl, hclaimed⟩
    | cancel =>
      exact fun hterminal => (ih hterminal).imp_right fun h => ⟨h.1, rfl, h.2.2⟩
    | publish | orphan => exact ih
    | notice hnotice =>
      obtain ⟨l, l', records, hloop, -, hstep, hw, -⟩ := step_of_notice? hnotice
      rw [hw]
      exact ih.follow hloop hstep.passage
    | answer r hidle =>
      cases hloop : w.connection.loop with
      | none => simpa [answer_of_loop_none hloop] using ih
      | some l =>
        obtain ⟨l', records, hstep, hw, -⟩ := step_of_answer hloop r
        rw [hw]
        exact ih.follow hloop hstep.passage

/-! ### When it is final -/

/-- No loop can start any more, or the loop is over, or it is to stop, is settled, and the closed
state is there already. -/
def Settled (w : Situation T) : Prop :=
  match w.connection.loop with
  | none => w.connection.cancelled = true
  | some l => l.isRunning = false ∨
      w.connection.cancelled = true ∧ w.connection.lifecycle.value = .closed ∧ l.isSettled = true

theorem Settled.cancel {w : Situation T} (hsettled : Settled w) :
    Settled { w with connection := w.connection.cancel } := by
  unfold Settled at hsettled ⊢
  cases hloop : w.connection.loop with
  | none => simp [Connection.cancel, hloop]
  | some l =>
    simp only [hloop, Connection.cancel] at hsettled ⊢
    exact hsettled.imp_right fun h => ⟨trivial, h.2⟩

theorem Settled.advance {w : Situation T} {result : Loop.Result T}
    (hcancelled : w.connection.cancelled = true)
    (hclosed : w.connection.lifecycle.value = .closed) (hsettled : result.1.isSettled = true)
    (hcloses : Loop.OnlyCloses result.2) :
    (∀ state ∈ publications ((w.connection.advance result).2.map .loop), state = .closed) ∧
      (w.connection.advance result).1.lifecycle.value = .closed ∧
      Settled { w with connection := (w.connection.advance result).1 } := by
  have hvalue : (w.connection.advance result).1.lifecycle.value = .closed :=
    foldl_record_lifecycle hclosed hcloses
  refine ⟨fun state hmem => hcloses state (mem_publications_loop.mp hmem), hvalue, ?_⟩
  simp only [Settled, Connection.advance, foldl_record_loop, foldl_record_cancelled] at hvalue ⊢
  exact .inr ⟨hcancelled, hvalue, hsettled⟩

/-- Where the lifecycle shows a terminal state for good, a step publishes no other state. -/
theorem Settled.step {w w' : Situation T} {deeds : List (Deed T)} (hsettled : Settled w)
    (hterminal : w.connection.lifecycle.value.isTerminal = true) (hstep : Step w deeds w') :
    (∀ state ∈ publications deeds, state = w.connection.lifecycle.value) ∧
      w'.connection.lifecycle.value = w.connection.lifecycle.value ∧ Settled w' := by
  have hnone : ∀ state ∈ publications ([] : List (Deed T)),
      state = w.connection.lifecycle.value := fun _ hmem => absurd hmem List.not_mem_nil
  cases hstep with
  | start policy =>
    have hstart : w.connection.start policy = w.connection := by
      rw [Connection.start, if_neg]
      intro hnew
      rw [Bool.and_eq_true, Option.isNone_iff_eq_none] at hnew
      rw [Settled, hnew.1] at hsettled
      simp [hsettled] at hnew
    rw [hstart]
    exact ⟨hnone, rfl, hsettled⟩
  | close =>
    have hcloses := closes_close w.connection
    generalize w.connection.close.1 = c, w.connection.closeDeeds = deeds at hcloses ⊢
    cases hcloses with
    | claim | terminal => exact ⟨hnone, rfl, hsettled.cancel⟩
    | publish _ hnot => simp [hterminal] at hnot
  | cancel => exact ⟨hnone, rfl, hsettled.cancel⟩
  | publish | orphan => exact ⟨hnone, rfl, hsettled⟩
  | notice hnotice =>
    simp only [notice?, Option.bind_eq_some_iff, Option.map_eq_some_iff] at hnotice
    obtain ⟨l, hloop, result, hnotice, rfl⟩ := hnotice
    rw [Settled, hloop] at hsettled
    rcases hsettled with hover | ⟨hcancelled, hclosed, hsettled⟩
    · rw [Loop.notice?_of_not_running hover] at hnotice
      cases hnotice
    · obtain ⟨hsettled', hcloses⟩ := Loop.settled_notice? hcancelled hsettled hnotice
      rw [hclosed]
      exact Settled.advance hcancelled hclosed hsettled' hcloses
  | answer r hidle =>
    cases hloop : w.connection.loop with
    | none =>
      rw [answer_of_loop_none hloop]
      exact ⟨hnone, rfl, hsettled⟩
    | some l =>
      simp only [notice?, hloop, Option.bind_some, Option.map_eq_none_iff] at hidle
      simp only [answer, hloop]
      rw [Settled, hloop] at hsettled
      rcases hsettled with hover | ⟨hcancelled, hclosed, hsettled⟩
      · rw [Loop.answer_of_not_running r hover]
        refine ⟨hnone, rfl, ?_⟩
        simp only [Settled, Connection.advance, List.foldl_nil]
        exact .inl hover
      · obtain ⟨hsettled', hcloses⟩ := Loop.settled_answer r hcancelled hsettled hidle
        rw [hclosed]
        exact Settled.advance hcancelled hclosed hsettled' hcloses

/-- A terminal state that is there for good is the only one that is published from then on. -/
theorem Settled.final {w w' : Situation T} {later : List (Deed T)} (hsettled : Settled w)
    (hterminal : w.connection.lifecycle.value.isTerminal = true)
    (course : InterestMux.Course Step w later w') :
    (∀ state ∈ publications later, state = w.connection.lifecycle.value) ∧
      w'.connection.lifecycle.value = w.connection.lifecycle.value ∧ Settled w' := by
  induction course with
  | start => exact ⟨fun _ hmem => absurd hmem List.not_mem_nil, rfl, hsettled⟩
  | step _ last ih =>
    obtain ⟨hpublished, hvalue, hsettled'⟩ := ih
    obtain ⟨hlast, hvalue', hsettled''⟩ := hsettled'.step (by rwa [hvalue]) last
    refine ⟨fun state hmem => ?_, hvalue'.trans hvalue, hsettled''⟩
    rw [publications, List.filterMap_append, List.mem_append] at hmem
    rcases hmem with hmem | hmem
    · exact hpublished state hmem
    · exact (hlast state hmem).trans hvalue

/-- Every terminal state with a settled loop, or without a loop, is there for good. -/
theorem Terminated.settled {w : Situation T} (hterminated : Terminated w)
    (hterminal : w.connection.lifecycle.value.isTerminal = true)
    (hsettled : ∀ l, w.connection.loop = some l → l.isSettled = true) : Settled w := by
  unfold Settled
  rcases hterminated hterminal with ⟨l, hloop, hfinished⟩ | ⟨hclosed, hcancelled, -⟩
  · simp only [hloop]
    exact .inl (by rw [Loop.isRunning, hfinished])
  · cases hloop : w.connection.loop with
    | none => exact hcancelled
    | some l => exact .inr ⟨hcancelled, hclosed, hsettled l hloop⟩

/-- A loop that is not settled can publish a state that is not terminal, or is exhausted. -/
theorem exists_publication_of_not_settled {w : Situation T} {l : Loop T}
    (hloop : w.connection.loop = some l) (hunsettled : l.isSettled = false) :
    ∃ deeds w', Step w deeds w' ∧ ∃ state ∈ publications deeds,
      state.isTerminal = false ∨ ∃ n, state = .exhausted n := by
  cases hwait : l.wait with
  | spawned =>
    have hnotice : w.connection.notice? w.operand w.supplied none =
        some (w.connection.advance (l.attempt w.connection.cancelled)) := by
      simp [notice?, hloop, Loop.notice?, hwait, sight]
    have hpublished : .connecting (l.failures + 1) ∈
        publications ((w.connection.advance (l.attempt w.connection.cancelled)).2.map .loop) := by
      refine mem_publications_loop.mpr ?_
      cases w.connection.cancelled <;> exact List.mem_cons_self
    exact ⟨_, _, .notice hnotice, _, hpublished, .inl rfl⟩
  | releasing c verdict =>
    cases verdict with
    | stopped => simp [Loop.isSettled, hwait] at hunsettled
    | failed reason =>
      have hidle : w.connection.notice? w.operand w.supplied none = none := by
        simp [notice?, hloop, Loop.notice?, hwait]
      have hevents : (w.connection.answer w.operand .released).2 =
          .released c :: (l.fail w.connection.cancelled reason).2 := by
        simp [answer, hloop, Loop.answer, hwait, Loop.proceed, Connection.advance, sight]
      obtain ⟨-, hmem | hmem⟩ := Loop.fail_spec l w.connection.cancelled reason
      · have hpublished := mem_publications_loop.mpr (hevents ▸ List.mem_cons_of_mem _ hmem)
        exact ⟨_, _, .answer .released hidle, _, hpublished, .inl rfl⟩
      · have hpublished := mem_publications_loop.mpr (hevents ▸ List.mem_cons_of_mem _ hmem)
        exact ⟨_, _, .answer .released hidle, _, hpublished, .inr ⟨_, rfl⟩⟩
  | creating | replaying | serving | applying | resting | finished | crashed =>
    simp [Loop.isSettled, hwait] at hunsettled

/-- **A terminal state is final exactly if the loop is settled.** Otherwise the loop has not yet
run, or is releasing a failed channel, and a call to close that was not in charge of it published
the closed state while the call in charge was still waiting. -/
theorem Course.final_iff {channels : Ring Channel} {operand : Watch T} {h : List (Deed T)}
    {w : Situation T} (course : Course channels operand h w)
    (hterminal : w.connection.lifecycle.value.isTerminal = true) :
    ((∀ later w', InterestMux.Course Step w later w' →
        ∀ state ∈ publications later, state = w.connection.lifecycle.value) ↔
      ∀ l, w.connection.loop = some l → l.isSettled = true) ∧
    ∀ l, w.connection.loop = some l → l.isSettled = false →
      w.connection.lifecycle.value = .closed ∧ w.connection.unclaimed = false := by
  have hterminated := course.terminated hterminal
  have hclosed (l : Loop T) (hloop : w.connection.loop = some l)
      (hunsettled : l.isSettled = false) :
      w.connection.lifecycle.value = .closed ∧ w.connection.unclaimed = false := by
    rcases hterminated with ⟨l₀, hl₀, hfinished⟩ | ⟨hclosed, -, hclaimed⟩
    · obtain rfl := Option.some.inj (hloop.symm.trans hl₀)
      simp [Loop.isSettled, hfinished] at hunsettled
    · exact ⟨hclosed, hclaimed (by rw [hloop]; rfl)⟩
  refine ⟨⟨fun hfinal l hloop => ?_, fun hsettled later w' later_course => ?_⟩, hclosed⟩
  · by_contra hunsettled
    rw [Bool.not_eq_true] at hunsettled
    obtain ⟨deeds, w', hstep, state, hmem, hstate⟩ :=
      exists_publication_of_not_settled hloop hunsettled
    have heq : state = .closed :=
      (hfinal deeds w' (.single hstep) state hmem).trans (hclosed l hloop hunsettled).1
    subst heq
    rcases hstate with hstate | ⟨n, hstate⟩ <;> cases hstate
  · exact ((course.terminated.settled hterminal hsettled).final hterminal later_course).1

/-- One call to close, and then the loop: the closed state is final. -/
theorem final_after_one_close :
    ∃ (h : List (Deed Nat)) (w : Situation Nat), Course (.create 4) ⟨0, 0⟩ h w ∧
      publications h = [.connecting 1, .closed] ∧
      w.connection.lifecycle.value.isTerminal = true ∧
      ∀ later w', InterestMux.Course Step w later w' →
        ∀ state ∈ publications later, state = w.connection.lifecycle.value := by
  have started : Course (.create 4) (⟨0, 0⟩ : Watch Nat) _ _ := .step .start (.start _ {})
  have closed := Course.step started (.close _)
  have course := Course.step closed (.notice (rfl : notice? _ _ _ none = some _))
  refine ⟨_, _, course, rfl, rfl, (Course.final_iff course rfl).1.mpr fun l hl => ?_⟩
  obtain rfl := Option.some.inj hl
  rfl

/-- Two calls to close before the loop has run: the closed state that the second call publishes
gives way to an attempt. -/
theorem not_final_after_two_closes :
    ∃ (h later : List (Deed Nat)) (w w' : Situation Nat), Course (.create 4) ⟨0, 0⟩ h w ∧
      publications h = [.closed] ∧ w.connection.lifecycle.value.isTerminal = true ∧
      InterestMux.Course Step w later w' ∧ publications later = [.connecting 1, .closed] := by
  have started : Course (.create 4) (⟨0, 0⟩ : Watch Nat) _ _ := .step .start (.start _ {})
  have course := Course.step (Course.step started (.close _)) (.close _)
  exact ⟨_, _, _, _, course, rfl, rfl, .single (.notice (rfl : notice? _ _ _ none = some _)), rfl⟩

end InterestMux.Connection
