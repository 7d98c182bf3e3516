import InterestMux.Proofs.Connection.Course

/-!
# Runs of a connection

A run tells a course of a connection turn by turn. A turn is the move of one party, together with
the situation that the party finds and with what the move does. The callers start the connection,
close it and drop it; somebody publishes operands, and gives them up at last; the loop looks around
or takes an answer. So a run says who called what and when, where the history of a course only
has what the loop did.

## Main definitions

* `Connection.Move`, `Connection.Situation.play?`, `Connection.Played` : the moves, and what they
  do.
* `Connection.Turn`, `Connection.Run`
* `Connection.Passes`, `Connection.Spares` : a step is a passage of the loop, or leaves it alone.
* `Connection.events` : what the loop does in a list of turns.

## Main results

* `Connection.Run.course` : every run is a course.
* `Connection.Run.loop_course` : the loop of a run has come through a course of its own.
* `Connection.Run.throughout` : what holds of every turn that a run can take holds throughout.
* `Connection.Run.split` : a run can be taken apart at any of its turns.
* `Connection.loop_of_step` : a step leaves the loop alone, spawns it, or is one of its passages.
* `Connection.passage_of_play?` : what the loop does in a turn is a passage.
-/

namespace InterestMux.Connection

variable {T : Type}

/-- What one party does with a connection or its operands. -/
inductive Move (T : Type) where
  /-- A call to start. -/
  | start (policy : RetryPolicy)
  /-- A call to close. -/
  | close
  /-- The connection is dropped. -/
  | drop
  /-- An operand is published. -/
  | publish (x : T)
  /-- The operands lose their publisher. -/
  | orphan
  /-- The loop looks around, and sees how the session in use ended, if it did. -/
  | look (ended : Option SessionEnd)
  /-- The loop takes the answer to its call. -/
  | hear (r : Loop.Reply)

/-- What a move does and where it leads, if it can be made. There are no operands without a
publisher. The loop looks around only where this moves it on, and takes an answer only where it
does not. -/
def Situation.play? (w : Situation T) : Move T → Option (List (Deed T) × Situation T)
  | .start policy => some ([], { w with connection := w.connection.start policy })
  | .close => some (w.connection.closeDeeds, { w with connection := w.connection.close.1 })
  | .drop => some ([], { w with connection := w.connection.cancel })
  | .publish x => if w.supplied then some ([], { w with operand := w.operand.publish x }) else none
  | .orphan => some ([], { w with supplied := false })
  | .look ended =>
    (w.connection.notice? w.operand w.supplied ended).map fun result =>
      (result.2.map .loop, { w with connection := result.1 })
  | .hear r =>
    if (w.connection.notice? w.operand w.supplied none).isNone then
      some ((w.connection.answer w.operand r).2.map .loop,
        { w with connection := (w.connection.answer w.operand r).1 })
    else none

/-- What the moves do. -/
inductive Played (w : Situation T) : Move T → List (Deed T) → Situation T → Prop
  | start (policy : RetryPolicy) :
    Played w (.start policy) [] { w with connection := w.connection.start policy }
  | close : Played w .close w.connection.closeDeeds { w with connection := w.connection.close.1 }
  | drop : Played w .drop [] { w with connection := w.connection.cancel }
  | publish (x : T) (hsupplied : w.supplied = true) :
    Played w (.publish x) [] { w with operand := w.operand.publish x }
  | orphan : Played w .orphan [] { w with supplied := false }
  | look {ended : Option SessionEnd} {result : Connection T × List (Loop.Event T)}
    (hnotice : w.connection.notice? w.operand w.supplied ended = some result) :
    Played w (.look ended) (result.2.map .loop) { w with connection := result.1 }
  | hear (r : Loop.Reply) (hidle : w.connection.notice? w.operand w.supplied none = none) :
    Played w (.hear r) ((w.connection.answer w.operand r).2.map .loop)
      { w with connection := (w.connection.answer w.operand r).1 }

theorem played_of_play? {w w' : Situation T} {move : Move T} {deeds : List (Deed T)}
    (h : w.play? move = some (deeds, w')) : Played w move deeds w' := by
  cases move with
  | start policy =>
    obtain ⟨rfl, rfl⟩ := Prod.mk.inj (Option.some.inj h)
    exact .start policy
  | close =>
    obtain ⟨rfl, rfl⟩ := Prod.mk.inj (Option.some.inj h)
    exact .close
  | drop =>
    obtain ⟨rfl, rfl⟩ := Prod.mk.inj (Option.some.inj h)
    exact .drop
  | publish x =>
    obtain ⟨hsupplied, hresult⟩ := Option.ite_none_right_eq_some.mp h
    obtain ⟨rfl, rfl⟩ := Prod.mk.inj (Option.some.inj hresult)
    exact .publish x hsupplied
  | orphan =>
    obtain ⟨rfl, rfl⟩ := Prod.mk.inj (Option.some.inj h)
    exact .orphan
  | look ended =>
    obtain ⟨result, hnotice, hresult⟩ := Option.map_eq_some_iff.mp h
    obtain ⟨rfl, rfl⟩ := Prod.mk.inj hresult
    exact .look hnotice
  | hear r =>
    obtain ⟨hidle, hresult⟩ := Option.ite_none_right_eq_some.mp h
    obtain ⟨rfl, rfl⟩ := Prod.mk.inj (Option.some.inj hresult)
    exact .hear r (Option.isNone_iff_eq_none.mp hidle)

theorem step_of_play? {w w' : Situation T} {move : Move T} {deeds : List (Deed T)}
    (h : w.play? move = some (deeds, w')) : Step w deeds w' := by
  cases played_of_play? h with
  | start policy => exact .start w policy
  | close => exact .close w
  | drop => exact .cancel w
  | publish x => exact .publish w x
  | orphan => exact .orphan w
  | look hnotice => exact .notice hnotice
  | hear r hidle => exact .answer r hidle

/-! ### Turns -/

/-- A turn of a run: what a party finds, its move, and what the move does. -/
structure Turn (T : Type) where
  before : Situation T
  move : Move T
  deeds : List (Deed T)

/-- One turn is taken. -/
def Plays (w : Situation T) (turns : List (Turn T)) (w' : Situation T) : Prop :=
  ∃ move deeds, w.play? move = some (deeds, w') ∧ turns = [⟨w, move, deeds⟩]

/-- A run of a new connection, for observers that may fall behind by `history` channels, with an
operand to begin with. -/
abbrev Run (history : Nat) (operand : T) : List (Turn T) → Situation T → Prop :=
  InterestMux.Course Plays
    { connection := { channels := .create history }, operand := ⟨operand, 0⟩ }

/-- All that is done in a list of turns. -/
def deedsOf (turns : List (Turn T)) : List (Deed T) :=
  turns.flatMap Turn.deeds

/-- What the loop does in a list of turns. -/
def events (turns : List (Turn T)) : List (Loop.Event T) :=
  (deedsOf turns).filterMap Deed.event?

theorem deedsOf_concat (turns : List (Turn T)) (t : Turn T) :
    deedsOf (turns ++ [t]) = deedsOf turns ++ t.deeds := by
  simp [deedsOf]

theorem events_concat (turns : List (Turn T)) (t : Turn T) :
    events (turns ++ [t]) = events turns ++ t.deeds.filterMap Deed.event? := by
  rw [events, deedsOf_concat, List.filterMap_append, events]

section Run

variable {history : Nat} {operand : T} {turns : List (Turn T)} {w w' : Situation T}

theorem Run.play (run : Run history operand turns w) (move : Move T) {deeds : List (Deed T)}
    (h : w.play? move = some (deeds, w')) : Run history operand (turns ++ [⟨w, move, deeds⟩]) w' :=
  .step run ⟨move, deeds, h, rfl⟩

/-- **Every run is a course.** -/
theorem Run.course (run : Run history operand turns w) :
    Course (.create history) ⟨operand, 0⟩ (deedsOf turns) w := by
  induction run with
  | start => exact .start
  | step _ last ih =>
    obtain ⟨move, deeds, hplay, rfl⟩ := last
    rw [deedsOf_concat]
    exact ih.step (step_of_play? hplay)

/-- The loop of a run, if there is one, runs through a course of its own, and what happens in the
run is what happens in that course. -/
theorem Run.loop_course (run : Run history operand turns w) :
    (w.connection.loop = none ∧ events turns = []) ∨
      ∃ l policy records, w.connection.loop = some l ∧ Loop.Course policy records l ∧
        records.filterMap Loop.Record.event? = events turns := by
  have hfollows := run.course.follows
  rw [Follows] at hfollows
  cases hloop : w.connection.loop with
  | none =>
    rw [hloop] at hfollows
    exact .inl ⟨rfl, hfollows⟩
  | some l =>
    rw [hloop] at hfollows
    obtain ⟨policy, records, course, hrecords⟩ := hfollows
    exact .inr ⟨l, policy, records, rfl, course, hrecords⟩

/-- What holds of every turn that a run can take holds throughout the run. -/
theorem Run.throughout {P : List (Turn T) → Turn T → Prop} (run : Run history operand turns w)
    (h : ∀ turns w move deeds w', Run history operand turns w →
      w.play? move = some (deeds, w') → P turns ⟨w, move, deeds⟩) : Throughout P turns := by
  induction run with
  | start => exact throughout_nil P
  | @step turns w _ w' before last ih =>
    obtain ⟨move, deeds, hplay, rfl⟩ := last
    exact throughout_concat.mpr ⟨ih, h turns w move deeds w' before hplay⟩

/-- **A run can be taken apart at any of its turns**: what comes before it is a run, and what comes
after it goes on from where the turn leads. -/
theorem Run.split {before later : List (Turn T)} {t : Turn T}
    (run : Run history operand (before ++ t :: later) w) :
    Run history operand before t.before ∧ ∃ w₁,
      t.before.play? t.move = some (t.deeds, w₁) ∧ InterestMux.Course Plays w₁ later w := by
  obtain ⟨w₀, w₁, past, ⟨move, deeds, hplay, hturn⟩, rest⟩ :=
    InterestMux.Course.split run fun _ _ _ ⟨_, _, _, hturn⟩ => ⟨_, hturn⟩
  obtain rfl := List.singleton_inj.mp hturn
  exact ⟨past, w₁, hplay, rest⟩

end Run

/-! ### The loop -/

/-- What the loop does in a step is one of its passages, and the step leaves the connection behind
it. -/
def Passes (w : Situation T) (deeds : List (Deed T)) (w' : Situation T) : Prop :=
  ∃ l l' records s, w.connection.loop = some l ∧ Loop.Passage s l records l' ∧
    s.operand = w.operand ∧ s.cancelled = w.connection.cancelled ∧
    (s.supplied = false → w.supplied = false) ∧
    deeds = (records.filterMap Loop.Record.event?).map .loop ∧ w' = w.follow l' records

/-- A step leaves the loop and its channels alone. All that it can publish is the closed state, if
there is no loop or a call to close is in charge of it. -/
structure Spares (w : Situation T) (deeds : List (Deed T)) (w' : Situation T) : Prop where
  loop_eq : w'.connection.loop = w.connection.loop
  current_eq : w'.connection.current = w.connection.current
  channels_eq : w'.connection.channels = w.connection.channels
  lifecycle_eq : deeds = [] ∧ w'.connection.lifecycle = w.connection.lifecycle ∨
    deeds = [.closed] ∧ w'.connection.lifecycle = w.connection.lifecycle.publish .closed ∧
      (w.connection.loop.isSome = true → w.connection.unclaimed = false)

theorem Spares.filterMap_event? {w w' : Situation T} {deeds : List (Deed T)}
    (spares : Spares w deeds w') : deeds.filterMap Deed.event? = [] := by
  rcases spares.lifecycle_eq with ⟨rfl, -⟩ | ⟨rfl, -⟩ <;> rfl

/-- A step leaves the loop alone, spawns it, or is one of its passages. -/
theorem loop_of_step {w w' : Situation T} {deeds : List (Deed T)} (h : Step w deeds w') :
    Spares w deeds w' ∨
      (∃ policy, w.connection.loop = none ∧ deeds = [] ∧
        w' = { w with connection := { w.connection with loop := some { policy } } }) ∨
      Passes w deeds w' := by
  cases h with
  | start policy =>
    by_cases hnew : (w.connection.loop.isNone && !w.connection.cancelled) = true
    · have hloop : w.connection.loop = none := by
        rw [Bool.and_eq_true, Option.isNone_iff_eq_none] at hnew
        exact hnew.1
      exact .inr (.inl ⟨policy, hloop, rfl, by rw [Connection.start, if_pos hnew]⟩)
    · rw [Connection.start, if_neg hnew]
      exact .inl ⟨rfl, rfl, rfl, .inl ⟨rfl, rfl⟩⟩
  | close =>
    have hcloses := closes_close w.connection
    generalize w.connection.close.1 = c, w.connection.closeDeeds = deeds at hcloses ⊢
    cases hcloses with
    | claim | terminal => exact .inl ⟨rfl, rfl, rfl, .inl ⟨rfl, rfl⟩⟩
    | publish hclaimed => exact .inl ⟨rfl, rfl, rfl, .inr ⟨rfl, rfl, hclaimed⟩⟩
  | cancel | publish | orphan => exact .inl ⟨rfl, rfl, rfl, .inl ⟨rfl, rfl⟩⟩
  | notice hnotice =>
    obtain ⟨l, l', records, hloop, -, hstep, hw, hevents⟩ := step_of_notice? hnotice
    exact .inr (.inr ⟨l, l', records, _, hloop, hstep.passage, rfl, rfl, id, by rw [hevents], hw⟩)
  | answer r hidle =>
    cases hloop : w.connection.loop with
    | none =>
      rw [answer_of_loop_none hloop]
      exact .inl ⟨rfl, rfl, rfl, .inl ⟨rfl, rfl⟩⟩
    | some l =>
      obtain ⟨l', records, hstep, hw, hevents⟩ := step_of_answer hloop r
      have hsupplied (h : true = false) : w.supplied = false := by cases h
      exact .inr (.inr ⟨l, l', records, _, hloop, hstep.passage, rfl, rfl, hsupplied,
        by rw [hevents], hw⟩)

theorem passage_of_play? {w w' : Situation T} {move : Move T} {deeds : List (Deed T)}
    {e : Loop.Event T} (h : w.play? move = some (deeds, w')) (he : .loop e ∈ deeds) :
    Passes w deeds w' := by
  have hmem : e ∈ deeds.filterMap Deed.event? := List.mem_filterMap.mpr ⟨_, he, rfl⟩
  rcases loop_of_step (step_of_play? h) with spares | ⟨policy, -, rfl, -⟩ | passes
  · rw [spares.filterMap_event?] at hmem
    cases hmem
  · cases he
  · exact passes

end InterestMux.Connection
