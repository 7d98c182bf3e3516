import InterestMux.Proofs.Connection.Closure
import InterestMux.Proofs.Connection.Finality

/-!
# What a loop that breaks down leaves behind

When a call of the loop breaks down, the loop is gone where it stands. Nobody tidies up after it: a
channel that it had established stays the current one and is never released, and the state stays
what it was. A call to close that takes charge of the loop finds it over and returns; only another
call publishes the closed state.

## Main definitions

* `Connection.Situation.breakDown` : the loop breaks down where it waits.
* `Connection.closesLeft` : the calls to close that it takes to come to a terminal state.
* `Connection.Rests` : what a loop that is over leaves to the callers.
* `Connection.LeavesBehind` : what is left of a loop that has broken down.

## Main results

* `Connection.play?_broke` : an answer that breaks a call down breaks the loop down where it waits.
* `Connection.rests_of_course` : what the callers of a connection can do when its loop is over.
* `Connection.Run.leavesBehind` : what every loop leaves behind, at whatever point it breaks down.
-/

namespace InterestMux.Connection

variable {T : Type}

/-- The loop breaks down where it waits. All else stays as it is. -/
def Situation.breakDown (w : Situation T) : Situation T :=
  { w with
    connection :=
      { w.connection with loop := w.connection.loop.map fun l => { l with wait := .crashed } } }

/-- **An answer that breaks a call down breaks the loop down where it waits.** -/
theorem play?_broke {w : Situation T} {l : Loop T} (hloop : w.connection.loop = some l)
    (hcalling : l.isCalling = true)
    (hidle : w.connection.notice? w.operand w.supplied none = none) :
    w.play? (.hear .broke) = some ([], w.breakDown) := by
  have hanswer : l.answer (w.connection.sight w.operand true none) .broke =
      ({ l with wait := .crashed }, []) := by
    cases hwait : l.wait <;> simp [Loop.isCalling, Loop.answer, hwait] at hcalling ⊢
  simp only [Situation.play?, hidle, Option.isNone_none, if_true, answer, hloop, hanswer, advance,
    List.foldl_nil, List.map_nil, Situation.breakDown, Option.map_some]

/-! ### Calls to close -/

/-- The turn is a call to close. -/
def Turn.isClose (t : Turn T) : Bool :=
  match t.move with
  | .close => true
  | _ => false

/-- The calls to close that it takes to come to a terminal state, if the loop does nothing about it:
none if the state is terminal, or else one that publishes the closed state, after the one that takes
charge of the loop. -/
def closesLeft (c : Connection T) : Nat :=
  if c.lifecycle.value.isTerminal then 0 else if c.holdsHandle then 2 else 1

theorem isTerminal_iff_closesLeft {c : Connection T} :
    c.lifecycle.value.isTerminal = true ↔ c.closesLeft = 0 := by
  rw [closesLeft]
  cases c.lifecycle.value.isTerminal <;> cases c.holdsHandle <;> simp

theorem closesLeft_congr {c c' : Connection T} (hlifecycle : c'.lifecycle = c.lifecycle)
    (hhandle : c'.holdsHandle = c.holdsHandle) : c'.closesLeft = c.closesLeft := by
  rw [closesLeft, closesLeft, hlifecycle, hhandle]

/-- A call to close leaves one less, and only the last one changes the state. -/
theorem closesLeft_close (c : Connection T) :
    c.close.1.closesLeft = c.closesLeft - 1 ∧
      (0 < c.close.1.closesLeft → c.close.1.lifecycle = c.lifecycle) := by
  have hcloses := closes_close c
  generalize c.close.1 = c', c.closeDeeds = deeds at hcloses ⊢
  cases hcloses with
  | claim hloop hunclaimed =>
    refine ⟨?_, fun _ => rfl⟩
    cases hterminal : c.lifecycle.value.isTerminal <;>
      simp [closesLeft, holdsHandle, hterminal, hloop, hunclaimed]
  | terminal _ hterminal => exact ⟨by simp [closesLeft, hterminal], fun _ => rfl⟩
  | publish hclaimed hterminal =>
    have hhandle : c.holdsHandle = false := by
      cases hloop : c.loop.isSome <;> simp [holdsHandle, hloop, hclaimed]
    have hnone : closesLeft
        { c with cancelled := true, lifecycle := c.lifecycle.publish .closed } = 0 :=
      isTerminal_iff_closesLeft.mp rfl
    refine ⟨hnone.trans ?_, fun hleft => absurd hnone (Nat.ne_of_gt hleft)⟩
    simp [closesLeft, hterminal, hhandle]

/-- The loop is over, and what happens is up to the callers: the current channel stays, and the
state changes only with the last call to close that it takes. -/
structure Rests (c : Connection T) (later : List (Turn T)) (c' : Connection T) : Prop where
  loop_eq : c'.loop = c.loop
  current_eq : c'.current = c.current
  events_eq : events later = []
  closesLeft_eq : c'.closesLeft = c.closesLeft - later.countP Turn.isClose
  lifecycle_eq : 0 < c'.closesLeft → c'.lifecycle = c.lifecycle

section Rests

variable {w w' : Situation T} {c c' c'' : Connection T} {move : Move T} {deeds : List (Deed T)}
  {earlier later : List (Turn T)}

theorem Rests.trans (first : Rests c earlier c') (second : Rests c' later c'') :
    Rests c (earlier ++ later) c'' := by
  have hleft : c''.closesLeft = c'.closesLeft - later.countP Turn.isClose := second.closesLeft_eq
  constructor
  case loop_eq => exact second.loop_eq.trans first.loop_eq
  case current_eq => exact second.current_eq.trans first.current_eq
  case events_eq =>
    rw [events, deedsOf, List.flatMap_append, List.filterMap_append]
    exact List.append_eq_nil_iff.mpr ⟨first.events_eq, second.events_eq⟩
  case closesLeft_eq => rw [hleft, first.closesLeft_eq, List.countP_append, Nat.sub_sub]
  case lifecycle_eq =>
    intro hpos
    exact (second.lifecycle_eq hpos).trans (first.lifecycle_eq (by omega))

theorem rests_of_eq (hloop : c'.loop = c.loop) (hcurrent : c'.current = c.current)
    (hlifecycle : c'.lifecycle = c.lifecycle) (hunclaimed : c'.unclaimed = c.unclaimed)
    (hclose : later.countP Turn.isClose = 0) (hevents : events later = []) : Rests c later c' where
  loop_eq := hloop
  current_eq := hcurrent
  events_eq := hevents
  closesLeft_eq := by
    rw [hclose, Nat.sub_zero]
    exact closesLeft_congr hlifecycle (by rw [holdsHandle, holdsHandle, hloop, hunclaimed])
  lifecycle_eq := fun _ => hlifecycle

theorem rests_of_play? (hloop : w.connection.loop.isSome = true)
    (hover : w.connection.isRunning = false) (h : w.play? move = some (deeds, w')) :
    Rests w.connection [⟨w, move, deeds⟩] w'.connection := by
  cases played_of_play? h with
  | start policy =>
    have hstart : w.connection.start policy = w.connection := by
      obtain ⟨l, hl⟩ := Option.isSome_iff_exists.mp hloop
      simp [Connection.start, hl]
    rw [hstart]
    exact rests_of_eq rfl rfl rfl rfl rfl rfl
  | close =>
    obtain ⟨hleft, hlifecycle⟩ := closesLeft_close w.connection
    refine ⟨loop_close _, current_close _, ?_, hleft, hlifecycle⟩
    simp only [events, deedsOf, List.flatMap_cons, List.flatMap_nil, List.append_nil,
      filterMap_event?_closeDeeds]
  | drop | publish | orphan => exact rests_of_eq rfl rfl rfl rfl rfl rfl
  | look hnotice =>
    rw [notice?_of_over hover] at hnotice
    cases hnotice
  | hear r =>
    rw [answer_of_over hover]
    exact rests_of_eq rfl rfl rfl rfl rfl rfl

/-- **When the loop is over, all that is left is up to the callers.** -/
theorem rests_of_course (hloop : w.connection.loop.isSome = true)
    (hover : w.connection.isRunning = false) (course : InterestMux.Course Plays w later w') :
    Rests w.connection later w'.connection := by
  induction course with
  | start => exact rests_of_eq rfl rfl rfl rfl rfl rfl
  | step _ last ih =>
    obtain ⟨move, deeds, hplay, rfl⟩ := last
    refine ih.trans (rests_of_play? (by rwa [ih.loop_eq]) ?_ hplay)
    rwa [isRunning, ih.loop_eq]

end Rests

/-! ### Breakdowns -/

/-- The loop `l` has broken down in the situation `w`; this is what is left in `w'`, after the turns
`later`. -/
structure LeavesBehind (l : Loop T) (w : Situation T) (later : List (Turn T))
    (w' : Situation T) : Prop where
  /-- A channel that was established stays the current one. -/
  current_eq : w'.connection.current = l.established?
  /-- No channel is released any more. -/
  events_eq : events later = []
  /-- The state stays, up to the last call to close that it takes. -/
  lifecycle_eq : later.countP Turn.isClose < w.connection.closesLeft →
    w'.connection.lifecycle = w.connection.lifecycle
  /-- It takes two calls if nobody had closed the connection before. -/
  closesLeft_eq : w.connection.unclaimed = true → w.connection.closesLeft = 2
  /-- All is tidied up exactly if there have been so many calls and no channel was established. -/
  cleared_iff : w'.connection.lifecycle.value.isTerminal = true ∧ w'.connection.current = none ↔
    w.connection.closesLeft ≤ later.countP Turn.isClose ∧ l.established? = none

section Run

variable {history : Nat} {operand : T} {turns later : List (Turn T)} {w w' : Situation T}
  {l : Loop T}

/-- **What every loop leaves behind, at whatever point it breaks down.** After a call to close, the
state is terminal only if another call had taken charge of the loop before, and there is no current
channel only if none was established. -/
theorem Run.leavesBehind (run : Run history operand turns w) (hloop : w.connection.loop = some l)
    (hrunning : l.isRunning = true) (course : InterestMux.Course Plays w.breakDown later w') :
    LeavesBehind l w later w' := by
  have hbroken : w.breakDown.connection.loop = some { l with wait := .crashed } := by
    rw [Situation.breakDown, hloop, Option.map_some]
  have hover : w.breakDown.connection.isRunning = false := by
    rw [isRunning, hbroken]
    rfl
  have rests := rests_of_course (by rw [hbroken]; rfl) hover course
  have hleft : w.breakDown.connection.closesLeft = w.connection.closesLeft :=
    closesLeft_congr rfl (by rw [holdsHandle, holdsHandle, hbroken, hloop]; rfl)
  have hlive : l.wait ≠ .crashed := fun hcrashed => by
    rw [Loop.isRunning, hcrashed] at hrunning
    cases hrunning
  have hcurrent : w'.connection.current = l.established? :=
    rests.current_eq.trans (run.shown.2 l hloop hlive).current_eq
  have hclosesLeft := rests.closesLeft_eq
  rw [hleft] at hclosesLeft
  constructor
  case current_eq => exact hcurrent
  case events_eq => exact rests.events_eq
  case lifecycle_eq => exact fun hfew => rests.lifecycle_eq (by omega)
  case closesLeft_eq =>
    intro hunclaimed
    -- Only the end of the loop, or a call that finds it in the charge of another, is terminal.
    have hterminal : ¬ w.connection.lifecycle.value.isTerminal = true := fun hterminal => by
      rcases run.course.terminated hterminal with ⟨l', hl', hfinished⟩ | ⟨-, -, hclaimed⟩
      · obtain rfl := Option.some.inj (hloop.symm.trans hl')
        rw [Loop.isRunning, hfinished] at hrunning
        cases hrunning
      · simp [hunclaimed, hloop] at hclaimed
    simp [closesLeft, hterminal, holdsHandle, hloop, hunclaimed]
  case cleared_iff =>
    rw [isTerminal_iff_closesLeft, hcurrent, hclosesLeft, Nat.sub_eq_zero_iff_le]

end Run

/-- The loop breaks down while it replays an operand on its first channel. The second call to close
brings the connection to a terminal state. -/
theorem leavesBehind_during_replay :
    ∃ (turns later : List (Turn Nat)) (w w' : Situation Nat) (l : Loop Nat), Run 4 0 turns w ∧
      w.connection.loop = some l ∧ l.isRunning = true ∧
      w.play? (.hear .broke) = some ([], w.breakDown) ∧
      InterestMux.Course Plays w.breakDown later w' ∧ later.countP Turn.isClose = 2 ∧
      w'.connection.lifecycle.value = .closed ∧ w'.connection.current = none ∧
      LeavesBehind l w later w' := by
  have started := Run.play (.start : Run 4 0 [] _) (.start {}) rfl
  have run := (started.play (.look none) rfl).play (.hear (.created ⟨0, none⟩)) rfl
  have closed {w : Situation Nat} : InterestMux.Course Plays w _ _ :=
    .step (.step .start ⟨.close, _, rfl, rfl⟩) ⟨.close, _, rfl, rfl⟩
  exact ⟨_, _, _, _, _, run, rfl, rfl, play?_broke rfl rfl rfl, closed, rfl, rfl, rfl,
    run.leavesBehind rfl rfl closed⟩

/-- The loop breaks down while a later operand is under way. A call to close returns, and still the
connection is published as connected and has a current channel, which nobody has begun to
release. -/
theorem connected_after_breakdown :
    ∃ (before : List (Turn Nat)) (call : Turn Nat) (w : Situation Nat),
      Run 4 0 (before ++ [call]) w ∧ call.before.connection.isCrashed = true ∧
      call.move = .close ∧ call.hasReturned w ∧ w.connection.lifecycle.value = .connected 1 ∧
      w.connection.current = some ⟨0, none⟩ ∧
      Loop.givenUp (events (before ++ [call])) = [] := by
  have started := Run.play (.start : Run 4 0 [] _) (.start {}) rfl
  have obtained := (started.play (.look none) rfl).play (.hear (.created ⟨0, none⟩)) rfl
  have bound := ((obtained.play (.hear .applied) rfl).play (.publish 1) rfl).play (.look none) rfl
  have run := (bound.play (.hear .broke) rfl).play .close rfl
  exact ⟨_, _, _, run, rfl, rfl, .inr rfl, rfl, rfl, rfl⟩

end InterestMux.Connection
