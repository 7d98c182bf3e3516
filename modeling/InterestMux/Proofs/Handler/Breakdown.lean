import InterestMux.Proofs.Connection.Breakdown
import InterestMux.Proofs.Handler.Shutdown

/-!
# Handlers whose loop has broken down

A handler closes its connection once, by its shutdown, and that call takes charge of the loop and
leaves the state to it. So the state of a handler is terminal exactly if the loop has come to its
end. If the loop has broken down, the handler shows for good what it showed then, shut down or not:
a state that is not terminal, and the current channel if there was one.

## Main definitions

* `Handler.breakDown` : the reconnect loop breaks down where it waits.
* `Handler.Engine.LeavesState` : nobody but the loop publishes states.

## Main results

* `Handler.Run.isTerminal_iff` : the state is terminal exactly if the loop has come to its end.
* `Handler.Run.shows_of_breakDown` : what a handler shows when its loop has broken down.
-/

namespace InterestMux.Handler

variable {α : Type}

/-! ### Who publishes states -/

namespace Engine

variable {e e' : Engine} {events : List Event}

/-- Nobody but the loop publishes states: the connection is not closed before the shutdown, and its
state is terminal exactly if the loop has come to its end. -/
structure LeavesState (e : Engine) : Prop where
  isSome_loop : e.connection.loop.isSome = true
  unclaimed : e.phase = .running → e.connection.unclaimed = true
  terminal_iff : ∀ l, e.connection.loop = some l →
    (e.connection.lifecycle.value.isTerminal = true ↔ l.wait = .finished)

/-- The call to close that a shutdown makes takes charge of the loop, and changes nothing else. -/
theorem close_eq (hsome : e.connection.loop.isSome = true)
    (hunclaimed : e.connection.unclaimed = true) :
    e.connection.close.1 = { e.connection with cancelled := true, unclaimed := false } := by
  obtain ⟨l, hloop⟩ := Option.isSome_iff_exists.mp hsome
  rw [Connection.close_of_unclaimed hloop hunclaimed]

theorem leavesState_start (settings : Settings) : LeavesState (Engine.start settings) where
  isSome_loop := rfl
  unclaimed := fun _ => rfl
  terminal_iff := fun l hloop => by
    obtain rfl := Option.some.inj hloop
    exact iff_of_false Bool.false_ne_true fun h => by cases h

/-- **Nobody but the loop publishes states**, whatever happens to the engine. -/
theorem LeavesState.step (leaves : LeavesState e) (step : Step e events e') : LeavesState e' := by
  obtain ⟨hsome, hunclaimed, hterminal⟩ := leaves
  cases step with
  | rest | notice | answer | drop => exact ⟨hsome, hunclaimed, hterminal⟩
  | finish => exact ⟨hsome, (fun h => by cases h), hterminal⟩
  | close _ hrunning =>
    rw [close_eq hsome (hunclaimed hrunning)]
    exact ⟨hsome, (fun h => by cases h), hterminal⟩
  | @turn s l l' deeds hloop hstep =>
    have hl' : (e.connection.advance (l', deeds.filterMap Loop.Record.event?)).1.loop = some l' :=
      Connection.foldl_record_loop _ _
    refine ⟨by rw [hl']; rfl, fun h => ?_, fun l₁ hl₁ => ?_⟩
    · exact (Connection.foldl_record_unclaimed _ _).trans (hunclaimed h)
    · obtain rfl := Option.some.inj (hl'.symm.trans hl₁)
      rcases Connection.lifecycle_of_passage ⟨e.connection, s.operand, true⟩ hstep.passage with
        ⟨hsame, hmoved⟩ | hiff
      · have hbefore := hterminal l hloop
        rw [← hsame] at hbefore
        refine hbefore.trans ?_
        rcases hmoved with rfl | ⟨hrunning, hgoing⟩
        · exact Iff.rfl
        · refine iff_of_false (fun hfinished => ?_) hgoing
          simp [Loop.isRunning, hfinished] at hrunning
      · exact hiff

theorem LeavesState.quiet (leaves : LeavesState e) (hover : e.connection.isRunning = false)
    (step : Step e events e') :
    e'.connection.lifecycle = e.connection.lifecycle ∧
      e'.connection.current = e.connection.current := by
  cases step with
  | rest | notice | answer | drop | finish => exact ⟨rfl, rfl⟩
  | close _ hrunning =>
    rw [close_eq leaves.isSome_loop (leaves.unclaimed hrunning)]
    exact ⟨rfl, rfl⟩
  | turn hloop hstep =>
    obtain ⟨rfl, rfl⟩ := hstep.of_not_running (Connection.isRunning_eq_false_iff.mp hover _ hloop)
    exact ⟨rfl, rfl⟩

end Engine

/-! ### Breakdowns -/

/-- The reconnect loop breaks down where it waits. All else stays as it is. -/
def breakDown (h : Handler α) : Handler α :=
  { h with connection := h.situation.breakDown.connection }

section Run

variable {settings : Settings} {metrics : Option Metrics} {turns later : List (Turn α)}
  {h h' : Handler α}

theorem Run.leavesState (run : Run settings metrics turns h) : h.engine.LeavesState := by
  refine run.induction (fun h₀ hbuild => ?_) fun turns h move events h' _ hplay ih => ?_
  · rw [engine_of_build hbuild]
    exact Engine.leavesState_start settings
  · exact ih.step (step_of_play? hplay).engine

/-- **The state of a handler is terminal exactly if the loop has come to its end**, whether or not
the handler is shut down. -/
theorem Run.isTerminal_iff (run : Run settings metrics turns h) :
    h.connectionState.isTerminal = true ↔
      ∃ l, h.connection.loop = some l ∧ l.wait = .finished := by
  obtain ⟨l, hloop⟩ := Option.isSome_iff_exists.mp run.leavesState.isSome_loop
  have hiff := run.leavesState.terminal_iff l hloop
  refine ⟨fun hterminal => ⟨l, hloop, hiff.mp hterminal⟩, fun ⟨l', hl', hfinished⟩ => ?_⟩
  obtain rfl := Option.some.inj (hloop.symm.trans hl')
  exact hiff.mpr hfinished

theorem quiet_of_course (leaves : h.engine.LeavesState) (hover : h.connection.isRunning = false)
    (course : InterestMux.Course Plays h later h') :
    h'.engine.LeavesState ∧ h'.connection.isRunning = false ∧
      h'.connection.lifecycle = h.connection.lifecycle ∧
      h'.connection.current = h.connection.current := by
  induction course with
  | start => exact ⟨leaves, hover, rfl, rfl⟩
  | step _ last ih =>
    obtain ⟨move, events, hplay, rfl⟩ := last
    obtain ⟨leaves', hover', hlifecycle, hcurrent⟩ := ih
    have step := (step_of_play? hplay).engine
    obtain ⟨hlifecycle', hcurrent'⟩ := leaves'.quiet hover' step
    exact ⟨leaves'.step step, (step.isRunning_eq_false hover').1, hlifecycle'.trans hlifecycle,
      hcurrent'.trans hcurrent⟩

/-- **A handler whose loop has broken down shows for good what it showed then**, at whatever point
the loop breaks down, and whether or not the handler is shut down afterwards. The state is not
terminal. -/
theorem Run.shows_of_breakDown (run : Run settings metrics turns h)
    (hrunning : h.connection.isRunning = true)
    (course : InterestMux.Course Plays h.breakDown later h') :
    h'.connectionState = h.connectionState ∧ h'.connectionState.isTerminal = false ∧
      h'.currentChannel = h.currentChannel := by
  have hnot : ¬ h.connectionState.isTerminal = true := fun hterminal => by
    obtain ⟨l, hloop, hfinished⟩ := run.isTerminal_iff.mp hterminal
    simp [Connection.isRunning, hloop, Loop.isRunning, hfinished] at hrunning
  obtain ⟨l, hloop⟩ := Option.isSome_iff_exists.mp run.leavesState.isSome_loop
  have hbroken : h.breakDown.connection.loop = some { l with wait := .crashed } :=
    congrArg (Option.map _) hloop
  have leaves : h.breakDown.engine.LeavesState := by
    constructor
    case isSome_loop => exact hbroken ▸ rfl
    case unclaimed => exact run.leavesState.unclaimed
    case terminal_iff =>
      intro l' hl'
      obtain rfl := Option.some.inj (hbroken.symm.trans hl')
      exact iff_of_false hnot fun h => by cases h
  have hover : h.breakDown.connection.isRunning = false := by
    rw [Connection.isRunning, hbroken]
    rfl
  obtain ⟨-, -, hlifecycle, hcurrent⟩ := quiet_of_course leaves hover course
  have hstate : h'.connectionState = h.connectionState := congrArg Watch.value hlifecycle
  exact ⟨hstate, hstate ▸ eq_false_of_ne_true hnot, hcurrent⟩

end Run

end InterestMux.Handler
