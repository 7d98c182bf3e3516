import InterestMux.Proofs.Connection.Run
import InterestMux.Proofs.Loop.Custody

/-!
# One loop and one channel

A connection has one loop in all its life. A call to start looks for the handle of a loop, and not
for the loop itself; but a call to close that takes the handle away closes the connection first,
and a closed connection starts no loop. The loop has one channel at a time, and releases each
exactly once, whatever its callers do and however its calls are answered. Only a call that breaks
down can leave a channel behind.

## Main definitions

* `Connection.isStartable`, `Connection.Turn.spawns` : where a call to start spawns a loop.
* `Connection.HasSoleChannel` : one loop, and one channel at a time.

## Main results

* `Connection.Run.countP_spawns` : there is a loop if a call to start spawned one, and there is
  only one such call.
* `Connection.Run.hasSoleChannel` : every run has one loop, and one channel at a time.
-/

namespace InterestMux.Connection

variable {T : Type}

/-! ### One loop -/

/-- The handle of a loop is in its place: there is a loop, and no call to close has taken charge of
its end. -/
def holdsHandle (c : Connection T) : Bool :=
  c.loop.isSome && c.unclaimed

/-- A call to start finds no handle, and a connection that is not closed. -/
def isStartable (c : Connection T) : Bool :=
  !c.holdsHandle && !c.cancelled

/-- The turn is a call to start that spawns a loop. -/
def Turn.spawns (t : Turn T) : Bool :=
  match t.move with
  | .start _ => t.before.connection.isStartable
  | _ => false

theorem Course.cancelled_of_claimed {channels : Ring Channel} {operand : Watch T}
    {h : List (Deed T)} {w : Situation T} (course : Course channels operand h w) :
    w.connection.unclaimed = false → w.connection.cancelled = true := by
  induction course with
  | start => exact fun hclaimed => by cases hclaimed
  | @step h w deeds w' _ last ih =>
    cases last with
    | start policy =>
      simp only [Connection.start]
      split <;> exact ih
    | close => exact fun _ => cancelled_close _
    | cancel => exact fun _ => rfl
    | publish | orphan => exact ih
    | notice hnotice =>
      obtain ⟨l, l', records, -, -, -, hw, -⟩ := step_of_notice? hnotice
      rw [hw]
      simpa [Situation.follow] using ih
    | answer r hidle =>
      cases hloop : w.connection.loop with
      | none => simpa [answer_of_loop_none hloop] using ih
      | some l =>
        obtain ⟨l', records, -, hw, -⟩ := step_of_answer hloop r
        rw [hw]
        simpa [Situation.follow] using ih

/-- If the call to close that takes the handle closes the connection, then a connection without a
handle that is not closed has no loop. -/
theorem isStartable_eq {c : Connection T} (hclosed : c.unclaimed = false → c.cancelled = true) :
    c.isStartable = (c.loop.isNone && !c.cancelled) := by
  rw [isStartable, holdsHandle]
  cases hloop : c.loop with
  | none => simp
  | some l =>
    cases hunclaimed : c.unclaimed with
    | true => simp
    | false => simp [hclosed hunclaimed]

/-- No step takes a loop away, and only a call to start that spawns a loop puts one in place. -/
theorem isSome_loop_of_play? {w w' : Situation T} {move : Move T} {deeds : List (Deed T)}
    (hclosed : w.connection.unclaimed = false → w.connection.cancelled = true)
    (h : w.play? move = some (deeds, w')) :
    w'.connection.loop.isSome = (w.connection.loop.isSome || Turn.spawns ⟨w, move, deeds⟩) := by
  cases played_of_play? h with
  | start policy =>
    simp only [Turn.spawns, isStartable_eq hclosed, Connection.start]
    cases hloop : w.connection.loop with
    | some l => simp [hloop]
    | none => cases w.connection.cancelled <;> simp [hloop]
  | close => rw [Turn.spawns, Bool.or_false, loop_close]
  | drop | orphan | publish => exact (Bool.or_false _).symm
  | look hnotice =>
    obtain ⟨l, l', records, hloop, -, -, hw, -⟩ := step_of_notice? hnotice
    rw [hw, hloop]
    simp [Situation.follow]
  | hear r hidle =>
    cases hloop : w.connection.loop with
    | none => simp [answer_of_loop_none hloop, hloop, Turn.spawns]
    | some l =>
      obtain ⟨l', records, -, hw, -⟩ := step_of_answer hloop r
      rw [hw]
      simp [Situation.follow]

section Run

variable {history : Nat} {operand : T} {turns : List (Turn T)} {w : Situation T}

/-- **There is a loop if a call to start spawned one, and there is only one such call.** -/
theorem Run.countP_spawns (run : Run history operand turns w) :
    turns.countP Turn.spawns = if w.connection.loop.isSome then 1 else 0 := by
  induction run with
  | start => rfl
  | @step turns w _ w' before last ih =>
    obtain ⟨move, deeds, hplay, rfl⟩ := last
    have hclosed := (Run.course before).cancelled_of_claimed
    have hloop := isSome_loop_of_play? hclosed hplay
    rw [List.countP_append, ih, List.countP_singleton, hloop]
    cases hsome : w.connection.loop.isSome with
    | false => simp
    | true =>
      -- A call to start that finds a loop finds its handle, or a connection that is closed.
      have hspawns : Turn.spawns ⟨w, move, deeds⟩ = false := by
        cases move with
        | start policy =>
          obtain ⟨l, hl⟩ := Option.isSome_iff_exists.mp hsome
          simp [Turn.spawns, isStartable_eq hclosed, hl]
        | _ => rfl
      simp [hspawns]

/-- The connection has one loop, and the loop has one channel at a time and releases it exactly
once. -/
structure HasSoleChannel (turns : List (Turn T)) (w : Situation T) : Prop where
  /-- Of all calls to start, at most one spawns a loop. -/
  countP_spawns_le : turns.countP Turn.spawns ≤ 1
  /-- To spawn a loop is all that a call to start does. -/
  start_eq : ∀ policy, w.connection.start policy =
    if w.connection.isStartable then { w.connection with loop := some { policy } }
    else w.connection
  /-- The loop gets a channel when all earlier ones are released, applies one operand at a time to
  it, and only until it begins to release it, which it does once. -/
  orderly : Throughout Loop.Orderly (events turns)
  /-- At any moment, no more than one of the channels that the loop got is not released. -/
  length_obtained_le : ∀ before, before <+: events turns →
    Loop.released before <+: Loop.givenUp before ∧ Loop.givenUp before <+: Loop.obtained before ∧
      (Loop.obtained before).length ≤ (Loop.released before).length + 1
  /-- Unless a call of the loop broke down: it began to release every channel but the one that it
  holds, it has released all of these but the one at whose release it waits, and an operand is
  under way only where it waits for a channel that it holds to take the operand. -/
  settled : ∀ l, w.connection.loop = some l → l.wait ≠ .crashed →
    Loop.obtained (events turns) = Loop.givenUp (events turns) ++ l.channel?.toList ∧
      Loop.givenUp (events turns) = Loop.released (events turns) ++ l.leaving?.toList ∧
      Loop.underWay? (events turns) = l.call?

theorem Run.keeps (run : Run history operand turns w) :
    Throughout Loop.Orderly (events turns) ∧
      ∀ l, w.connection.loop = some l → Loop.Keeps (events turns) l := by
  rcases run.loop_course with ⟨hloop, hnone⟩ | ⟨l, policy, records, hloop, course, hrecords⟩
  · rw [hnone, hloop]
    exact ⟨throughout_nil _, fun l hl => by cases hl⟩
  · rw [← hrecords, hloop]
    refine ⟨course.keeps.1, fun l' hl' => ?_⟩
    obtain rfl := Option.some.inj hl'
    exact course.keeps

/-- **A connection has one loop, and one channel at a time.** Whoever starts, closes and drops it,
and however the calls of its loop are answered: one call to start spawns the loop, the loop gets a
channel only when it has released the one before, it begins to release every channel exactly once,
and it applies no operand to a channel after that, nor two at once. -/
theorem Run.hasSoleChannel (run : Run history operand turns w) : HasSoleChannel turns w := by
  obtain ⟨orderly, hkeeps⟩ := run.keeps
  have hstart := isStartable_eq run.course.cancelled_of_claimed
  constructor
  case countP_spawns_le =>
    rw [run.countP_spawns]
    split <;> omega
  case start_eq =>
    intro policy
    rw [hstart]
    rfl
  case orderly => exact orderly
  case length_obtained_le =>
    rintro before ⟨later, hlater⟩
    rw [← hlater] at orderly
    exact Loop.length_obtained_le (throughout_append.mp orderly).1
  case settled =>
    intro l hloop hlive
    have custody := (hkeeps l hloop).2 hlive
    exact ⟨custody.held_eq, custody.leaving_eq, custody.call_eq⟩

end Run

/-- The first channel rejects its operand and is released; the second is established, and released
when the connection closes. A second call to start changes nothing. -/
theorem hasSoleChannel_of_reconnect :
    ∃ (turns : List (Turn Nat)) (w : Situation Nat), Run 4 0 turns w ∧
      Loop.obtained (events turns) = [⟨0, none⟩, ⟨1, none⟩] ∧
      Loop.released (events turns) = [⟨0, none⟩, ⟨1, none⟩] ∧ HasSoleChannel turns w := by
  have started := Run.play (.start : Run 4 0 [] _) (.start {}) rfl
  have requested := started.play (.look none) rfl
  have obtained := requested.play (.hear (.created ⟨0, none⟩)) rfl
  have rejected := obtained.play (.hear (.rejected (.changeRejected "busy"))) rfl
  have resting := rejected.play (.hear .released) rfl
  have again := resting.play (.hear .elapsed) rfl
  have replayed := again.play (.hear (.created ⟨1, none⟩)) rfl
  have established := replayed.play (.hear .applied) rfl
  have closing := (established.play (.start {}) rfl).play .close rfl
  have withdrawn := closing.play (.look none) rfl
  have run := withdrawn.play (.hear .released) rfl
  exact ⟨_, _, run, rfl, rfl, run.hasSoleChannel⟩

end InterestMux.Connection
