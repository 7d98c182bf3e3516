import InterestMux.Proofs.Connection.Shown
import InterestMux.Proofs.Connection.SoleChannel

/-!
# Closing a connection

The first call to close can come at any moment. From then on the loop does nothing but find its way
out: wherever it waits, it turns away at once from what it waits for, unless that is the release of
a channel. When the call returns, the loop is over or there never was one. Then every channel that
the loop got is released, and nothing happens any more, whoever starts or closes the connection.

## Main definitions

* `Connection.IsDown` : nothing can happen on a connection any more.
* `Connection.Turn.hasReturned` : a call to close has returned.
* `Connection.ClosesDown` : a call to close stops everything.

## Main results

* `Connection.parting_of_play?` : what the loop of a closed connection does is part of its way out.
* `Connection.IsDown.stays` : nothing happens on a connection that is down.
* `Connection.Run.closesDown` : the first call to close stops everything.
-/

namespace InterestMux.Connection

variable {T : Type}

/-! ### On the way out -/

/-- Where the loop of a closed connection has nothing to do of its own accord, it waits for the
release of a channel or is over. -/
theorem isParting_of_idle {c : Connection T} {operand : Watch T} {supplied : Bool}
    {ended : Option SessionEnd} {l : Loop T} (hcancelled : c.cancelled = true)
    (hloop : c.loop = some l) (hidle : c.notice? operand supplied ended = none) :
    l.isParting = true := by
  have hsome : (l.notice? (c.sight operand supplied ended)).isSome = !l.isParting :=
    Loop.isSome_notice?_cancelled hcancelled
  simp only [notice?, hloop, Option.bind_some, Option.map_eq_none_iff] at hidle
  simpa [hidle] using hsome

section Parting

variable {c : Connection T} {operand : Watch T} {supplied : Bool} {ended : Option SessionEnd}
  {l : Loop T}

theorem parting_of_notice? {result : Connection T × List (Loop.Event T)}
    (hcancelled : c.cancelled = true) (h : c.notice? operand supplied ended = some result) :
    (∀ e ∈ result.2, e.isParting = true) ∧ result.1.cancelled = true := by
  simp only [notice?, Option.bind_eq_some_iff, Option.map_eq_some_iff] at h
  obtain ⟨l, -, step, hlook, rfl⟩ := h
  exact ⟨(Loop.parting_notice? hcancelled hlook).2, (foldl_record_cancelled _ _).trans hcancelled⟩

theorem parting_of_answer (r : Loop.Reply) (hcancelled : c.cancelled = true)
    (hidle : c.notice? operand supplied ended = none) :
    (∀ e ∈ (c.answer operand r).2, e.isParting = true) ∧
      (c.answer operand r).1.cancelled = true := by
  cases hloop : c.loop with
  | none =>
    rw [answer_of_loop_none hloop]
    exact ⟨fun _ he => absurd he List.not_mem_nil, hcancelled⟩
  | some l =>
    have hparting : l.isParting = true := isParting_of_idle hcancelled hloop hidle
    simp only [answer, hloop]
    exact ⟨(Loop.parting_answer r hcancelled hparting).2.2,
      (foldl_record_cancelled _ _).trans hcancelled⟩

/-- The loop of a closed connection has something to do at once if it neither waits for the release
of a channel nor is over, and after that it does, or is. -/
theorem exists_notice?_of_cancelled (hcancelled : c.cancelled = true) (hloop : c.loop = some l)
    (hstays : l.isParting = false) (operand : Watch T) (supplied : Bool)
    (ended : Option SessionEnd) :
    ∃ result l', c.notice? operand supplied ended = some result ∧ result.1.loop = some l' ∧
      l'.isParting = true := by
  have hsome : (l.notice? (c.sight operand supplied ended)).isSome = true := by
    rw [Loop.isSome_notice?_cancelled hcancelled, hstays]
    rfl
  obtain ⟨result, hnotice⟩ := Option.isSome_iff_exists.mp hsome
  refine ⟨c.advance result, result.1, ?_, foldl_record_loop _ _,
    (Loop.parting_notice? hcancelled hnotice).1⟩
  simp [notice?, hloop, hnotice]

theorem isRunning_answer_released {leaving : Channel} (hcancelled : c.cancelled = true)
    (hloop : c.loop = some l) (hleaving : l.leaving? = some leaving) (operand : Watch T) :
    (c.answer operand .released).1.isRunning = false := by
  have hparting : l.isParting = true := by
    cases hwait : l.wait <;> simp [Loop.leaving?, hwait] at hleaving
    rw [Loop.isParting, hwait]
  have hover := (Loop.parting_answer .released (s := c.sight operand true none)
    hcancelled hparting).2.1 rfl
  simpa [isRunning, answer, hloop, advance] using hover

end Parting

section Play

variable {w w' : Situation T} {move : Move T} {deeds : List (Deed T)} {later : List (Turn T)}

/-- Only a call to close takes the handle of the loop, and nobody puts it back. -/
theorem unclaimed_of_play? (h : w.play? move = some (deeds, w')) :
    w'.connection.unclaimed = w.connection.unclaimed ∨
      move = .close ∧ w'.connection.unclaimed = false := by
  cases played_of_play? h with
  | start policy =>
    rw [Connection.start]
    split <;> exact .inl rfl
  | close =>
    have hcloses := closes_close w.connection
    generalize w.connection.close.1 = c, w.connection.closeDeeds = deeds at hcloses ⊢
    cases hcloses with
    | claim => exact .inr ⟨rfl, rfl⟩
    | terminal | publish => exact .inl rfl
  | drop | publish | orphan => exact .inl rfl
  | look hnotice =>
    obtain ⟨l, l', records, -, -, -, hw, -⟩ := step_of_notice? hnotice
    rw [hw]
    exact .inl (foldl_record_unclaimed _ _)
  | hear r =>
    cases hloop : w.connection.loop with
    | none => exact .inl (by rw [answer_of_loop_none hloop])
    | some l =>
      obtain ⟨l', records, -, hw, -⟩ := step_of_answer hloop r
      rw [hw]
      exact .inl (foldl_record_unclaimed _ _)

/-- **What the loop of a closed connection does is part of its way out**, and the connection stays
closed. -/
theorem parting_of_play? (hcancelled : w.connection.cancelled = true)
    (h : w.play? move = some (deeds, w')) :
    (∀ e ∈ deeds.filterMap Deed.event?, e.isParting = true) ∧ w'.connection.cancelled = true := by
  have hnone : ∀ e ∈ ([] : List (Loop.Event T)), e.isParting = true :=
    fun _ he => absurd he List.not_mem_nil
  cases played_of_play? h with
  | start policy =>
    have hstart : w.connection.start policy = w.connection := by simp [Connection.start, hcancelled]
    rw [hstart]
    exact ⟨hnone, hcancelled⟩
  | close =>
    rw [filterMap_event?_closeDeeds]
    exact ⟨hnone, cancelled_close _⟩
  | drop => exact ⟨hnone, rfl⟩
  | publish | orphan => exact ⟨hnone, hcancelled⟩
  | look hnotice =>
    rw [filterMap_event?_loop]
    exact parting_of_notice? hcancelled hnotice
  | hear r hidle =>
    rw [filterMap_event?_loop]
    exact parting_of_answer r hcancelled hidle

/-- Whatever is played on a closed connection, it stays closed, what its loop does is part of its
way out, and no loop comes or goes. -/
theorem parting_of_course (hcancelled : w.connection.cancelled = true)
    (course : InterestMux.Course Plays w later w') :
    (∀ e ∈ events later, e.isParting = true) ∧ w'.connection.cancelled = true ∧
      w'.connection.loop.isSome = w.connection.loop.isSome ∧
      (w.connection.unclaimed = false → w'.connection.unclaimed = false) := by
  induction course with
  | start => exact ⟨fun _ he => absurd he List.not_mem_nil, hcancelled, rfl, id⟩
  | @step later w' _ w'' _ last ih =>
    obtain ⟨move, deeds, hplay, rfl⟩ := last
    obtain ⟨hbefore, hcancelled', hloop, hclaimed⟩ := ih
    obtain ⟨hlast, hcancelled''⟩ := parting_of_play? hcancelled' hplay
    have hspawns : Turn.spawns ⟨w', move, deeds⟩ = false := by
      cases move <;> simp [Turn.spawns, isStartable, hcancelled']
    rw [events_concat, List.forall_mem_append]
    refine ⟨⟨hbefore, hlast⟩, hcancelled'', ?_, fun h => ?_⟩
    · rw [isSome_loop_of_play? (fun _ => hcancelled') hplay, hspawns, Bool.or_false, hloop]
    · rcases unclaimed_of_play? hplay with hsame | ⟨-, htaken⟩
      · exact hsame.trans (hclaimed h)
      · exact htaken

end Play

/-! ### Connections that are down -/

section Over

variable {c : Connection T}

theorem isRunning_eq_false_iff :
    c.isRunning = false ↔ ∀ l, c.loop = some l → l.isRunning = false := by
  rw [isRunning]
  cases c.loop <;> simp

theorem notice?_of_over (hover : c.isRunning = false) (operand : Watch T) (supplied : Bool)
    (ended : Option SessionEnd) : c.notice? operand supplied ended = none := by
  refine Option.bind_eq_none_iff.mpr fun l hloop => ?_
  rw [Loop.notice?_of_not_running (isRunning_eq_false_iff.mp hover l hloop)]
  rfl

theorem answer_of_over (hover : c.isRunning = false) (operand : Watch T) (r : Loop.Reply) :
    c.answer operand r = (c, []) := by
  cases hloop : c.loop with
  | none => exact answer_of_loop_none hloop operand r
  | some l =>
    have hanswer := Loop.answer_of_not_running (s := c.sight operand true none) r
      (isRunning_eq_false_iff.mp hover l hloop)
    simp only [answer, hloop, hanswer, advance, List.foldl_nil]
    rw [← hloop]

end Over

/-- The connection is closed, its loop is over and its handle taken, if there is a loop at all, and
the state is terminal. -/
structure IsDown (c : Connection T) : Prop where
  cancelled : c.cancelled = true
  stopped : c.isRunning = false
  claimed : c.loop.isSome = true → c.unclaimed = false
  terminal : c.lifecycle.value.isTerminal = true

section IsDown

variable {w w' : Situation T} {move : Move T} {deeds : List (Deed T)} {later : List (Turn T)}

theorem IsDown.play (down : IsDown w.connection) (h : w.play? move = some (deeds, w')) :
    deeds = [] ∧ w'.connection = w.connection := by
  obtain ⟨hcancelled, hover, hclaimed, hterminal⟩ := down
  have hsame : { w.connection with cancelled := true } = w.connection := by rw [← hcancelled]
  cases played_of_play? h with
  | start policy => exact ⟨rfl, by simp [Connection.start, hcancelled]⟩
  | close =>
    have hcloses := closes_close w.connection
    generalize w.connection.close.1 = c, w.connection.closeDeeds = deeds at hcloses ⊢
    cases hcloses with
    | claim hloop hunclaimed => simp [hclaimed hloop] at hunclaimed
    | terminal => exact ⟨rfl, hsame⟩
    | publish _ hnot => simp [hterminal] at hnot
  | drop => exact ⟨rfl, hsame⟩
  | publish | orphan => exact ⟨rfl, rfl⟩
  | look hnotice =>
    rw [notice?_of_over hover] at hnotice
    cases hnotice
  | hear r =>
    rw [answer_of_over hover]
    exact ⟨rfl, rfl⟩

/-- **Nothing happens on a connection that is down**, whoever starts or closes it. -/
theorem IsDown.stays (down : IsDown w.connection) (course : InterestMux.Course Plays w later w') :
    deedsOf later = [] ∧ w'.connection = w.connection := by
  induction course with
  | start => exact ⟨rfl, rfl⟩
  | step _ last ih =>
    obtain ⟨move, deeds, hplay, rfl⟩ := last
    obtain ⟨hnothing, hsame⟩ := ih
    obtain ⟨rfl, hsame'⟩ := IsDown.play (hsame ▸ down) hplay
    exact ⟨by rw [deedsOf_concat, hnothing, List.append_nil], hsame'.trans hsame⟩

theorem isDown_close_of_loop_none {c : Connection T} (hloop : c.loop = none) :
    IsDown c.close.1 := by
  have hcloses := closes_close c
  generalize c.close.1 = c', c.closeDeeds = deeds at hcloses ⊢
  cases hcloses with
  | claim hsome => simp [hloop] at hsome
  | terminal _ hterminal =>
    exact ⟨rfl, by simp [isRunning, hloop], by simp [hloop], hterminal⟩
  | publish => exact ⟨rfl, by simp [isRunning, hloop], by simp [hloop], rfl⟩

end IsDown

/-! ### The first call to close -/

/-- The call to close made in a turn has returned: it had not to wait for the loop, or the loop is
over by now. -/
def Turn.hasReturned (call : Turn T) (w : Situation T) : Prop :=
  call.before.connection.close.2 = .done ∨ w.connection.isRunning = false

/-- A call to close has stopped everything, as far as the run has come: `turns` is all of the run,
and `later` what follows the call. -/
structure ClosesDown (turns later : List (Turn T)) (call : Turn T) (w : Situation T) : Prop where
  /-- The loop has done nothing since then but find its way out. It has not requested a channel nor
  got one, begun to apply an operand nor applied it, announced a channel, or begun to rest. -/
  parting : ∀ e ∈ events later, e.isParting = true
  /-- It has begun to release one channel at most since then, and has released one at most. -/
  length_le : (Loop.givenUp (events later)).length ≤ 1 ∧ (Loop.released (events later)).length ≤ 1
  /-- A loop that is running and does not wait for the release of a channel has something to do at
  once, whatever it sees. After that it is over, or waits for the release of a channel. -/
  leaves : ∀ l, w.connection.loop = some l → l.isParting = false → ∀ ended, ∃ result l',
    w.connection.notice? w.operand w.supplied ended = some result ∧
      result.1.loop = some l' ∧ l'.isParting = true
  /-- A loop that waits for the release of a channel is over once the channel is released. -/
  ends : ∀ l c, w.connection.loop = some l → l.leaving? = some c →
    (w.connection.answer w.operand .released).1.isRunning = false
  /-- When the call has returned, the state is terminal and there is no current channel, the loop
  began to release every channel that it got exactly once, and has released them all. Then nothing
  happens any more: the loop does nothing, nobody publishes a state, and the connection stays as it
  is. -/
  returned : call.hasReturned w →
    w.connection.lifecycle.value.isTerminal = true ∧ w.connection.current = none ∧
      Loop.givenUp (events turns) = Loop.obtained (events turns) ∧
      Loop.released (events turns) = Loop.obtained (events turns) ∧
      ∀ later' w', InterestMux.Course Plays w later' w' →
        deedsOf later' = [] ∧ w'.connection = w.connection

theorem obtained_of_parting {events : List (Loop.Event T)}
    (hparting : ∀ e ∈ events, e.isParting = true) : Loop.obtained events = [] := by
  refine List.filterMap_eq_nil_iff.mpr fun e he => ?_
  have hnot := hparting e he
  cases e <;> simp [Loop.Event.isParting] at hnot ⊢

section Run

variable {history : Nat} {operand : T} {turns before later : List (Turn T)} {call : Turn T}
  {w : Situation T}

theorem Run.unclaimed_of_open (run : Run history operand turns w) :
    (∀ t ∈ turns, t.move ≠ .close) → w.connection.unclaimed = true := by
  induction run with
  | start => exact fun _ => rfl
  | @step turns w _ w' _ last ih =>
    obtain ⟨move, deeds, hplay, rfl⟩ := last
    intro hopen
    have hunclaimed := ih fun t ht => hopen t (List.mem_append_left _ ht)
    have hmove : move ≠ .close := hopen ⟨w, move, deeds⟩ (by simp)
    rcases unclaimed_of_play? hplay with hsame | ⟨hclose, -⟩
    · exact hsame.trans hunclaimed
    · exact absurd hclose hmove

theorem Run.wait_eq_finished {l : Loop T} (run : Run history operand turns w) (calm : IsCalm turns)
    (hloop : w.connection.loop = some l) (hover : w.connection.isRunning = false) :
    l.wait = .finished := by
  have hstill := isRunning_eq_false_iff.mp hover l hloop
  exact (Loop.isRunning_eq_false_iff.mp hstill).resolve_right (run.wait_ne_crashed calm hloop)

/-- A loop that is over, and did not break down, has released all its channels. -/
theorem Run.quiet_of_over (run : Run history operand turns w) (calm : IsCalm turns)
    (hover : w.connection.isRunning = false) :
    w.connection.current = none ∧ Loop.givenUp (events turns) = Loop.obtained (events turns) ∧
      Loop.released (events turns) = Loop.obtained (events turns) := by
  cases hloop : w.connection.loop with
  | none =>
    refine ⟨(run.shown.1 hloop).1, ?_⟩
    rcases run.loop_course with ⟨-, hnone⟩ | ⟨l, -, -, hl, -⟩
    · rw [hnone]
      exact ⟨rfl, rfl⟩
    · simp [hloop] at hl
  | some l =>
    have hlive := run.wait_ne_crashed calm hloop
    have hwait := run.wait_eq_finished calm hloop hover
    have custody : Loop.Custody (events turns) none none none :=
      (run.keeps.2 l hloop).custody hwait (by simp)
    refine ⟨(run.shown.2 l hloop hlive).current_eq.trans ?_, ?_, custody.obtained_eq.symm⟩
    · rw [Loop.established?, hwait]
    · rw [custody.held_eq, Option.toList_none, List.append_nil]

/-- Once the first call to close has returned, the connection is down. -/
theorem Run.isDown_of_returned (run : Run history operand (before ++ call :: later) w)
    (hcall : call.move = .close) (hfirst : ∀ t ∈ before, t.move ≠ .close)
    (calm : IsCalm (before ++ call :: later)) (hreturned : call.hasReturned w) :
    IsDown w.connection := by
  obtain ⟨past, w₁, hplay, rest⟩ := run.split
  rw [hcall] at hplay
  obtain ⟨-, rfl⟩ := Prod.mk.inj (Option.some.inj hplay)
  cases hloop : call.before.connection.loop with
  | none =>
    -- There never was a loop, nor will there be one: the connection is down at once.
    have down := isDown_close_of_loop_none hloop
    rw [(IsDown.stays down rest).2]
    exact down
  | some l =>
    have hclose := close_of_unclaimed hloop (past.unclaimed_of_open hfirst)
    rw [hclose] at rest
    obtain ⟨-, hcancelled, hsome, hclaimed⟩ := parting_of_course rfl rest
    have hover : w.connection.isRunning = false :=
      hreturned.resolve_left (by rw [hclose]; exact Closing.noConfusion)
    obtain ⟨l', hloop'⟩ := Option.isSome_iff_exists.mp (hsome.trans (by simp [hloop]))
    have hfinished := run.wait_eq_finished calm hloop' hover
    constructor
    case cancelled => exact hcancelled
    case stopped => exact hover
    case claimed => exact fun _ => hclaimed rfl
    case terminal => exact (run.course.conclusion hloop' hfinished).1

/-- **The first call to close stops everything**, at whatever moment it is made. The loop only finds
its way out from then on, and waits for nothing but the release of a channel. When the call has
returned, all channels are released, and nothing happens any more. -/
theorem Run.closesDown (run : Run history operand (before ++ call :: later) w)
    (hcall : call.move = .close) (hfirst : ∀ t ∈ before, t.move ≠ .close)
    (calm : IsCalm (before ++ call :: later)) :
    ClosesDown (before ++ call :: later) later call w := by
  obtain ⟨past, w₁, hplay, rest⟩ := run.split
  rw [hcall] at hplay
  obtain ⟨hdeeds, rfl⟩ := Prod.mk.inj (Option.some.inj hplay)
  obtain ⟨hparting, hcancelled, -⟩ := parting_of_course (cancelled_close _) rest
  constructor
  case parting => exact hparting
  case length_le =>
    have hevents : events (before ++ call :: later) = events before ++ events later := by
      simp only [events, deedsOf, List.flatMap_append, List.flatMap_cons, ← hdeeds,
        List.filterMap_append, filterMap_event?_closeDeeds, List.nil_append]
    exact Loop.length_released_le (hevents ▸ run.keeps.1) (obtained_of_parting hparting)
  case leaves =>
    exact fun l hloop hstays =>
      exists_notice?_of_cancelled hcancelled hloop hstays w.operand w.supplied
  case ends =>
    exact fun l c hloop hleaving => isRunning_answer_released hcancelled hloop hleaving w.operand
  case returned =>
    intro hreturned
    have down := run.isDown_of_returned hcall hfirst calm hreturned
    obtain ⟨hcurrent, hgivenUp, hreleased⟩ := run.quiet_of_over calm down.stopped
    exact ⟨down.terminal, hcurrent, hgivenUp, hreleased, fun _ _ => down.stays⟩

end Run

/-- The connection is closed while an operand is under way, then closed again and started once
more while the loop is still on its way out. -/
theorem closesDown_during_change :
    ∃ (before later : List (Turn Nat)) (call : Turn Nat) (w : Situation Nat),
      Run 4 0 (before ++ call :: later) w ∧ call.move = .close ∧ (∀ t ∈ before, t.move ≠ .close) ∧
      IsCalm (before ++ call :: later) ∧ call.hasReturned w ∧
      w.connection.lifecycle.value = .closed ∧
      Loop.released (events (before ++ call :: later)) = [⟨0, none⟩] ∧
      ClosesDown (before ++ call :: later) later call w := by
  have started := Run.play (.start : Run 4 0 [] _) (.start {}) rfl
  have obtained := (started.play (.look none) rfl).play (.hear (.created ⟨0, none⟩)) rfl
  have bound := ((obtained.play (.hear .applied) rfl).play (.publish 1) rfl).play (.look none) rfl
  have closing := (bound.play .close rfl).play .close rfl
  have run := ((closing.play (.look none) rfl).play (.start {}) rfl).play (.hear .released) rfl
  refine ⟨[_, _, _, _, _, _], [_, _, _, _], _, _, run, rfl, ?_, ?_, .inr rfl, rfl, rfl,
    Run.closesDown run rfl ?_ ?_⟩
  all_goals simp [IsCalm]

end InterestMux.Connection
