import InterestMux.Connection.Basic
import InterestMux.Proofs.Loop.Course

/-!
# Courses of a connection

A connection is seen together with the operands that it follows. Its callers start it, close it,
drop it, publish operands and give the operands up, in any order and as often as they like; in
between the loop takes its steps, with any answers. The loop takes an answer only if it finds
nothing to do of its own accord, because it always looks around first.

## Main definitions

* `Connection.Situation`, `Connection.Deed`, `Connection.Step`, `Connection.Course`
* `Connection.Deed.publication?` : the states that the loop and its callers publish.

## Main results

* `Connection.step_of_notice?`, `Connection.step_of_answer` : what a connection does between calls
  is a step of its loop.
* `Connection.lifecycle_of_passage` : the loop publishes a terminal state when it comes to its end.
* `Connection.Course.follows` : the loop of a connection runs through a course of its own.
-/

namespace InterestMux

/-- What a record of the loop's history shows to the outside. -/
def Loop.Record.event? {T : Type} : Loop.Record T → Option (Loop.Event T)
  | .failure _ => none
  | .did e => some e

namespace Connection

variable {T : Type}

/-- A connection, the operands, and whether they still have a publisher. -/
structure Situation (T : Type) where
  connection : Connection T
  operand : Watch T
  supplied : Bool := true

/-- What happens on a connection. -/
inductive Deed (T : Type) where
  /-- The loop does something. -/
  | loop (e : Loop.Event T)
  /-- A call to close publishes the closed state. -/
  | closed
deriving DecidableEq

/-- What the loop does. -/
def Deed.event? : Deed T → Option (Loop.Event T)
  | .loop e => some e
  | .closed => none

/-- The state that a deed publishes, if any. -/
def Deed.publication? : Deed T → Option ConnectionState
  | .loop (.published state) => some state
  | .loop _ => none
  | .closed => some .closed

/-- The deeds of a call to close. -/
def closeDeeds (c : Connection T) : List (Deed T) :=
  if c.close.1.lifecycle.version = c.lifecycle.version then [] else [.closed]

/-- A step of a caller or of the loop. -/
inductive Step : Situation T → List (Deed T) → Situation T → Prop
  | start (w : Situation T) (policy : RetryPolicy) :
    Step w [] { w with connection := w.connection.start policy }
  | close (w : Situation T) :
    Step w w.connection.closeDeeds { w with connection := w.connection.close.1 }
  | cancel (w : Situation T) : Step w [] { w with connection := w.connection.cancel }
  | publish (w : Situation T) (x : T) : Step w [] { w with operand := w.operand.publish x }
  | orphan (w : Situation T) : Step w [] { w with supplied := false }
  | notice {w : Situation T} {ended : Option SessionEnd}
      {result : Connection T × List (Loop.Event T)}
      (h : w.connection.notice? w.operand w.supplied ended = some result) :
    Step w (result.2.map .loop) { w with connection := result.1 }
  | answer {w : Situation T} (r : Loop.Reply)
      (h : w.connection.notice? w.operand w.supplied none = none) :
    Step w ((w.connection.answer w.operand r).2.map .loop)
      { w with connection := (w.connection.answer w.operand r).1 }

/-- A course of a new connection that follows an operand. -/
abbrev Course (channels : Ring Channel) (operand : Watch T) :
    List (Deed T) → Situation T → Prop :=
  InterestMux.Course Step { connection := { channels }, operand }

/-- What a call to close does: it takes charge of the loop, or finds a terminal state, or else
publishes the closed state. -/
inductive Closes (c : Connection T) : Connection T → List (Deed T) → Prop
  | claim (hloop : c.loop.isSome = true) (hunclaimed : c.unclaimed = true) :
    Closes c { c with cancelled := true, unclaimed := false } []
  | terminal (hclaimed : c.loop.isSome = true → c.unclaimed = false)
      (hterminal : c.lifecycle.value.isTerminal = true) : Closes c { c with cancelled := true } []
  | publish (hclaimed : c.loop.isSome = true → c.unclaimed = false)
      (hterminal : c.lifecycle.value.isTerminal = false) :
    Closes c { c with cancelled := true, lifecycle := c.lifecycle.publish .closed } [.closed]

theorem closes_close (c : Connection T) : Closes c c.close.1 c.closeDeeds := by
  rw [closeDeeds, close]
  by_cases hclaim : c.loop.isSome = true ∧ c.unclaimed = true
  · simpa [cancel, hclaim] using Closes.claim hclaim.1 hclaim.2
  · have hclaimed (hloop : c.loop.isSome = true) : c.unclaimed = false := by
      simpa [hloop] using hclaim
    cases hterminal : c.lifecycle.value.isTerminal with
    | true => simpa [cancel, hclaim, hterminal] using Closes.terminal hclaimed hterminal
    | false => simpa [cancel, hclaim, hterminal] using Closes.publish hclaimed hterminal

theorem loop_close (c : Connection T) : c.close.1.loop = c.loop := by
  have hcloses := closes_close c
  generalize c.close.1 = c', c.closeDeeds = deeds at hcloses ⊢
  cases hcloses <;> rfl

theorem cancelled_close (c : Connection T) : c.close.1.cancelled = true := by
  have hcloses := closes_close c
  generalize c.close.1 = c', c.closeDeeds = deeds at hcloses ⊢
  cases hcloses <;> rfl

theorem current_close (c : Connection T) : c.close.1.current = c.current := by
  have hcloses := closes_close c
  generalize c.close.1 = c', c.closeDeeds = deeds at hcloses ⊢
  cases hcloses <;> rfl

theorem close_of_unclaimed {c : Connection T} {l : Loop T} (hloop : c.loop = some l)
    (hunclaimed : c.unclaimed = true) :
    c.close = ({ c with cancelled := true, unclaimed := false }, .awaitsLoop) := by
  simp [close, cancel, hloop, hunclaimed]

theorem filterMap_event?_closeDeeds (c : Connection T) :
    c.closeDeeds.filterMap Deed.event? = [] := by
  rw [closeDeeds]
  split <;> rfl

/-! ### What the loop's events change -/

section Record

variable (c : Connection T) (events : List (Loop.Event T))

@[simp] theorem foldl_record_loop : (events.foldl record c).loop = c.loop := by
  induction events generalizing c with
  | nil => rfl
  | cons e events ih => cases e <;> exact ih _

@[simp] theorem foldl_record_cancelled : (events.foldl record c).cancelled = c.cancelled := by
  induction events generalizing c with
  | nil => rfl
  | cons e events ih => cases e <;> exact ih _

@[simp] theorem foldl_record_unclaimed : (events.foldl record c).unclaimed = c.unclaimed := by
  induction events generalizing c with
  | nil => rfl
  | cons e events ih => cases e <;> exact ih _

theorem foldl_record_lifecycle_eq_or_lt :
    (events.foldl record c).lifecycle = c.lifecycle ∨
      c.lifecycle.version < (events.foldl record c).lifecycle.version := by
  induction events generalizing c with
  | nil => exact .inl rfl
  | cons e events ih =>
    rw [List.foldl_cons]
    cases e with
    | published state =>
      have hnewer : c.lifecycle.version < (c.record (.published state)).lifecycle.version :=
        Nat.lt_succ_self _
      rcases ih (c.record (.published state)) with hsame | hlater
      · exact .inr (hsame ▸ hnewer)
      · exact .inr (Nat.lt_trans hnewer hlater)
    | _ => exact ih _

end Record

/-! ### Steps of the loop -/

/-- The situation after the loop has moved on, with what its records publish. -/
def Situation.follow (w : Situation T) (l : Loop T) (deeds : List (Loop.Record T)) :
    Situation T :=
  { w with
    connection :=
      (deeds.filterMap Loop.Record.event?).foldl record { w.connection with loop := some l } }

/-- **The loop publishes a terminal state when it comes to its end**, and only then. A passage that
publishes nothing does not bring it there. -/
theorem lifecycle_of_passage {s : Loop.Sight T} {l l' : Loop T} {deeds : List (Loop.Record T)}
    (w : Situation T) (passage : Loop.Passage s l deeds l') :
    ((w.follow l' deeds).connection.lifecycle = w.connection.lifecycle ∧
        (l' = l ∨ l.isRunning = true ∧ l'.wait ≠ .finished)) ∨
      ((w.follow l' deeds).connection.lifecycle.value.isTerminal = true ↔ l'.wait = .finished) := by
  cases passage with
  | stay => exact .inl ⟨rfl, .inl rfl⟩
  | attempt | establish => exact .inr (iff_of_false Bool.false_ne_true fun h => by cases h)
  | attemptStopped | stop | releaseStopped => exact .inr (iff_of_true rfl rfl)
  | refuse _ hafter | releaseFailed _ hafter =>
    cases hafter with
    | rest => exact .inr (iff_of_false Bool.false_ne_true fun h => by cases h)
    | stop | giveUp => exact .inr (iff_of_true rfl rfl)
  | replay _ hwait | obtainStopped _ hwait | replayStopped hwait | replayRejected _ hwait
  | orphan hwait | apply hwait | accept hwait | reject _ hwait =>
    exact .inl ⟨rfl, .inr ⟨by rw [Loop.isRunning, hwait], fun h => by cases h⟩⟩
  | withdraw hwait | lose _ hwait =>
    have hrunning := Loop.isRunning_of_channel? (Loop.channel?_of_established hwait)
    exact .inl ⟨rfl, .inr ⟨hrunning, fun h => by cases h⟩⟩
  | crash hcalling =>
    exact .inl ⟨rfl, .inr ⟨Loop.isRunning_of_isCalling hcalling, fun h => by cases h⟩⟩

theorem filterMap_event?_records (failure : Option Failure) (events : List (Loop.Event T)) :
    (Loop.records failure events).filterMap Loop.Record.event? = events := by
  rw [Loop.records, List.filterMap_append, List.filterMap_map, List.filterMap_map]
  cases failure <;> exact List.filterMap_some

theorem step_of_notice? {w : Situation T} {ended : Option SessionEnd}
    {result : Connection T × List (Loop.Event T)}
    (h : w.connection.notice? w.operand w.supplied ended = some result) :
    ∃ l l' deeds, w.connection.loop = some l ∧
      l.notice? (w.connection.sight w.operand w.supplied ended) =
        some (l', deeds.filterMap Loop.Record.event?) ∧
      Loop.Step (w.connection.sight w.operand w.supplied ended) l deeds l' ∧
      { w with connection := result.1 } = w.follow l' deeds ∧
      result.2 = deeds.filterMap Loop.Record.event? := by
  simp only [notice?, Option.bind_eq_some_iff, Option.map_eq_some_iff] at h
  obtain ⟨l, hloop, step, hnotice, rfl⟩ := h
  refine ⟨l, step.1, _, hloop, ?_, .notice hnotice, ?_, ?_⟩
  all_goals simp only [filterMap_event?_records, hnotice, Situation.follow, advance]

theorem step_of_answer {w : Situation T} {l : Loop T} (hloop : w.connection.loop = some l)
    (r : Loop.Reply) :
    ∃ l' deeds, Loop.Step (w.connection.sight w.operand true none) l deeds l' ∧
      { w with connection := (w.connection.answer w.operand r).1 } = w.follow l' deeds ∧
      (w.connection.answer w.operand r).2 = deeds.filterMap Loop.Record.event? := by
  refine ⟨_, _, .answer l r, ?_, ?_⟩
  all_goals simp only [filterMap_event?_records, answer, hloop, Situation.follow, advance]

theorem answer_of_loop_none {c : Connection T} (hloop : c.loop = none) (operand : Watch T)
    (r : Loop.Reply) : c.answer operand r = (c, []) := by
  simp only [answer, hloop]

theorem filterMap_event?_loop (events : List (Loop.Event T)) :
    (events.map .loop).filterMap Deed.event? = events := by
  rw [List.filterMap_map]
  exact List.filterMap_some

/-- The loop of a situation, if there is one, has come through a course of its own, and did what
the history of the connection says. -/
def Follows (h : List (Deed T)) (w : Situation T) : Prop :=
  match w.connection.loop with
  | none => h.filterMap Deed.event? = []
  | some l => ∃ policy records, Loop.Course policy records l ∧
      records.filterMap Loop.Record.event? = h.filterMap Deed.event?

theorem Follows.follow {h : List (Deed T)} {w : Situation T} {l l' : Loop T}
    {deeds : List (Loop.Record T)} {s : Loop.Sight T} (hfollows : Follows h w)
    (hloop : w.connection.loop = some l) (hstep : Loop.Step s l deeds l') :
    Follows (h ++ (deeds.filterMap Loop.Record.event?).map .loop) (w.follow l' deeds) := by
  simp only [Follows, hloop] at hfollows
  obtain ⟨policy, records, course, hrecords⟩ := hfollows
  simp only [Follows, Situation.follow, foldl_record_loop]
  refine ⟨policy, records ++ deeds, .step course ⟨s, hstep⟩, ?_⟩
  rw [List.filterMap_append, List.filterMap_append, hrecords, filterMap_event?_loop]

/-- **The loop of a connection runs through a course of its own**, whatever the callers do. -/
theorem Course.follows {channels : Ring Channel} {operand : Watch T} {h : List (Deed T)}
    {w : Situation T} (course : Course channels operand h w) : Follows h w := by
  induction course with
  | start => rfl
  | @step h w deeds w' _ last ih =>
    cases last with
    | start policy =>
      rw [List.append_nil]
      cases hloop : w.connection.loop with
      | some l => simpa [Follows, Connection.start, hloop] using ih
      | none =>
        cases hcancelled : w.connection.cancelled with
        | true => simpa [Follows, Connection.start, hloop, hcancelled] using ih
        | false =>
          simp only [Follows, hloop] at ih
          simp only [Follows, Connection.start, hloop, hcancelled, Option.isNone_none,
            Bool.not_false, Bool.and_self, if_true]
          exact ⟨policy, [], .start, ih.symm⟩
    | close =>
      rw [Follows, List.filterMap_append, filterMap_event?_closeDeeds, List.append_nil, loop_close]
      exact ih
    | cancel | publish | orphan =>
      rw [List.append_nil]
      exact ih
    | notice hnotice =>
      obtain ⟨l, l', records, hloop, -, hstep, hw, hevents⟩ := step_of_notice? hnotice
      rw [hw, hevents]
      exact ih.follow hloop hstep
    | answer r hidle =>
      cases hloop : w.connection.loop with
      | none => simpa [answer_of_loop_none hloop] using ih
      | some l =>
        obtain ⟨l', records, hstep, hw, hevents⟩ := step_of_answer hloop r
        rw [hw, hevents]
        exact ih.follow hloop hstep

end Connection

end InterestMux
