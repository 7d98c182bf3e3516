import InterestMux.Rehearsal.Agenda
import InterestMux.Rehearsal.Stage

/-!
# Letting time pass

`Agenda.advance` lets a caller wait for a number of milliseconds. The tasks run until all of them
wait, then the clock jumps to the next timer, and so on until the caller's own timer has gone off
and it is the caller's turn.
-/

namespace InterestMux

/-- An ensemble on a stage. The loop is the task that the stage's timer belongs to. -/
structure StagedEnsemble (σ ι : Type) extends Ensemble σ ι where
  loop : ι
  stage : σ → Stage
  withStage : σ → Stage → σ

namespace Agenda

variable {σ ι : Type} [DecidableEq ι]

/-- Who queues up when timers go off: the loop and the caller, in the order of their timers. -/
def alarmed (e : StagedEnsemble σ ι) (state : σ) (now : Nat) (own : Timer) : List (Option ι) :=
  let caller := if own.due ≤ now then [none] else []
  match (e.stage state).timer? with
  | some t =>
    if t.due ≤ now then
      if t.number < own.number then some e.loop :: caller else caller ++ [some e.loop]
    else caller
  | none => caller

/-- Lets the clock jump to the next timer. -/
def jump (e : StagedEnsemble σ ι) (own : Timer) (a : Agenda σ ι) : Agenda σ ι :=
  let stage := e.stage a.state
  let now :=
    match stage.timer? with
    | some t => min own.due t.due
    | none => own.due
  let state := e.withStage a.state { stage with now }
  { state, queue := a.queue ++ alarmed e state now own }

/-- Runs tasks and lets the clock jump until it is the caller's turn. -/
def sleep (e : StagedEnsemble σ ι) (own : Timer) : Nat → Agenda σ ι → Agenda σ ι
  | 0, a => a
  | fuel + 1, a =>
    match runQueue e.toEnsemble (fun _ => false) patience a with
    | (true, a) => a
    | (false, a) => sleep e own fuel (jump e own a)

/-- Lets a number of milliseconds pass for the caller. -/
def advance (e : StagedEnsemble σ ι) (millis : Nat) (a : Agenda σ ι) : Agenda σ ι :=
  if millis = 0 then a
  else
    let (own, stage) := (e.stage a.state).setTimer millis
    sleep e own patience { a with state := e.withStage a.state stage }

end Agenda

end InterestMux
