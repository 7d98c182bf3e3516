/-!
# Agendas

Tasks take turns on one thread: a task runs from its waiting point until it has to wait again, and
tasks that can go on queue up in the order in which they became able to. An `Ensemble` tells which
tasks there are and how each takes a step; a task can go on if it has a step to take. A caller may
wait for a condition; it then queues up like a task.

## Main definitions

* `Ensemble`
* `Agenda` : the state of the tasks and the queue.
* `Agenda.settle` : runs until every task waits.
* `Agenda.await` : runs until it is the waiting caller's turn.
-/

namespace InterestMux

/-- The tasks in a state, and their steps. -/
structure Ensemble (σ ι : Type) where
  /-- The tasks, in the order in which one event makes them able to go on. -/
  tasks : σ → List ι
  /-- The step that a task can take, if any. -/
  step? : σ → ι → Option σ

/-- The state of the tasks, and who can go on: a task, or the waiting caller. -/
structure Agenda (σ ι : Type) where
  state : σ
  queue : List (Option ι) := []

namespace Agenda

variable {σ ι : Type} [DecidableEq ι]

/-- The tasks other than the running one that can go on and are not in the queue yet. -/
def woken (e : Ensemble σ ι) (a : Agenda σ ι) (running : Option ι) : List ι :=
  (e.tasks a.state).filter fun t =>
    running != some t && !a.queue.contains (some t) && (e.step? a.state t).isSome

/-- Puts all who have become able to go on at the end of the queue, the caller last. -/
def wake (e : Ensemble σ ι) (ready : σ → Bool) (running : Option ι) (a : Agenda σ ι) :
    Agenda σ ι :=
  let queue := a.queue ++ (a.woken e running).map some
  if ready a.state && !queue.contains none then { a with queue := queue ++ [none] }
  else { a with queue }

/-- Lets a task run until it has to wait. -/
def runTask (e : Ensemble σ ι) (ready : σ → Bool) (t : ι) : Nat → Agenda σ ι → Agenda σ ι
  | 0, a => a
  | fuel + 1, a =>
    match e.step? a.state t with
    | none => a
    | some state => runTask e ready t fuel (({ a with state }).wake e ready (some t))

/-- Lets tasks run until the queue is empty or it is the caller's turn, and tells which. -/
def runQueue (e : Ensemble σ ι) (ready : σ → Bool) : Nat → Agenda σ ι → Bool × Agenda σ ι
  | 0, a => (false, a)
  | fuel + 1, a =>
    match a.queue with
    | [] => (false, a)
    | none :: queue => (true, { a with queue })
    | some t :: queue => runQueue e ready fuel (runTask e ready t fuel { a with queue })

/-- How many steps tasks may take before a caller loses patience with them. -/
def patience : Nat := 1000000

/-- Changes the state and lets those queue up who can go on then. -/
def act (e : Ensemble σ ι) (f : σ → σ) (a : Agenda σ ι) : Agenda σ ι :=
  ({ a with state := f a.state }).wake e (fun _ => false) none

/-- Runs until every task waits. -/
def settle (e : Ensemble σ ι) (a : Agenda σ ι) : Agenda σ ι :=
  (runQueue e (fun _ => false) patience a).2

/-- Runs until the condition holds and it is the waiting caller's turn, and tells whether it came
to that. A condition that holds already needs no waiting. -/
def await (e : Ensemble σ ι) (ready : σ → Bool) (a : Agenda σ ι) : Bool × Agenda σ ι :=
  if ready a.state then (true, a) else runQueue e ready patience a

end Agenda

end InterestMux
