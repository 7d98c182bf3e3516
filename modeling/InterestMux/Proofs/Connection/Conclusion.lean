import InterestMux.Proofs.Connection.Course
import InterestMux.Proofs.Loop.Custody
import InterestMux.Proofs.Loop.Stopping

/-!
# How the loop of a connection ends

A loop ends by itself: it releases the channel that it has, if any, and its last word is a terminal
state. Only a call that breaks down takes the loop with it before that.

## Main results

* `Loop.wait_answer_ne_crashed` : nothing but the answer that breaks a call down breaks the loop
  down.
* `Connection.Course.conclusion` : a loop that is over has released all its channels, and the
  connection shows a terminal state.
-/

namespace InterestMux

namespace Loop

variable {T : Type} {l : Loop T} {s : Sight T}

/-! ### What does not break the loop down -/

theorem wait_attempt (l : Loop T) (cancelled : Bool) :
    (l.attempt cancelled).1.wait = if cancelled then .finished else .creating := by
  cases cancelled <;> rfl

theorem wait_serve (l : Loop T) (s : Sight T) (c : Channel) :
    (l.serve s c).1.wait =
      if s.cancelled then .releasing c .stopped else .replaying c s.operand.value := by
  cases hcancelled : s.cancelled <;> simp [serve, hcancelled, release]

theorem wait_fail (l : Loop T) (cancelled : Bool) (reason : Failure) :
    (l.fail cancelled reason).1.wait = .resting ∨ (l.fail cancelled reason).1.wait = .finished := by
  cases hretry : l.policy.shouldRetry (countFailure l.failures) with
  | false => simp [fail, hretry]
  | true => cases cancelled <;> simp [fail, hretry, stop]

theorem wait_notice?_ne_crashed {result : Result T} (h : l.notice? s = some result) :
    result.1.wait ≠ .crashed := by
  cases hwait : l.wait with
  | spawned =>
    simp only [notice?, hwait, Option.some.injEq] at h
    rw [← h, wait_attempt]
    split <;> simp
  | creating | resting | replaying =>
    simp only [notice?, hwait, Option.ite_none_right_eq_some, Option.some.injEq] at h
    obtain ⟨-, rfl⟩ := h
    simp [stop, release]
  | serving c =>
    simp only [notice?, hwait] at h
    grind [withdraw, release, apply]
  | applying c x =>
    simp only [notice?, hwait] at h
    cases hsession : s.ended <;> grind [withdraw, release]
  | releasing | finished | crashed => simp [notice?, hwait] at h

/-- **Nothing but the answer that breaks a call down breaks the loop down.** -/
theorem wait_answer_ne_crashed {r : Reply} (hr : r ≠ .broke) (hlive : l.wait ≠ .crashed) :
    (l.answer s r).1.wait ≠ .crashed := by
  cases hwait : l.wait with
  | crashed => exact absurd hwait hlive
  | creating =>
    cases r with
    | broke => exact absurd rfl hr
    | created c =>
      simp only [answer, hwait, wait_serve]
      split <;> simp
    | refused reason =>
      simp only [answer, hwait]
      rcases wait_fail l s.cancelled reason with h | h <;> simp [h]
    | _ => simp [answer, hwait]
  | releasing c verdict =>
    cases r with
    | broke => exact absurd rfl hr
    | released =>
      simp only [answer, hwait, proceed]
      cases verdict with
      | stopped => simp [stop]
      | failed reason => rcases wait_fail l s.cancelled reason with h | h <;> simp [h]
    | _ => simp [answer, hwait]
  | resting =>
    cases r with
    | elapsed =>
      simp only [answer, hwait, wait_attempt]
      split <;> simp
    | _ => simp [answer, hwait]
  | replaying | serving | applying =>
    cases r with
    | broke => exact absurd rfl hr
    | _ => simp [answer, hwait, establish, release, withdraw]
  | spawned | finished => simp [answer, hwait]

end Loop

namespace Connection

variable {T : Type}

/-! ### What does not break a connection down -/

section Crash

variable {c : Connection T} {operand : Watch T}

theorem isCrashed_eq_false_iff :
    c.isCrashed = false ↔ ∀ l, c.loop = some l → l.wait ≠ .crashed := by
  rw [isCrashed]
  cases c.loop with
  | none => simp
  | some l => cases hwait : l.wait <;> simp [hwait]

theorem isCrashed_of_notice? {supplied : Bool} {ended : Option SessionEnd}
    {result : Connection T × List (Loop.Event T)}
    (h : c.notice? operand supplied ended = some result) : result.1.isCrashed = false := by
  obtain ⟨l, -, h⟩ := Option.bind_eq_some_iff.mp h
  obtain ⟨step, hnotice, rfl⟩ := Option.map_eq_some_iff.mp h
  refine isCrashed_eq_false_iff.mpr fun l' hl' => ?_
  obtain rfl := Option.some.inj ((foldl_record_loop _ _).symm.trans hl')
  exact Loop.wait_notice?_ne_crashed hnotice

theorem isCrashed_answer {r : Loop.Reply} (hr : r ≠ .broke) (hlive : c.isCrashed = false) :
    (c.answer operand r).1.isCrashed = false := by
  rw [answer]
  cases hloop : c.loop with
  | none => exact hlive
  | some l =>
    refine isCrashed_eq_false_iff.mpr fun l' hl' => ?_
    obtain rfl := Option.some.inj ((foldl_record_loop _ _).symm.trans hl')
    exact Loop.wait_answer_ne_crashed hr (isCrashed_eq_false_iff.mp hlive l hloop)

end Crash

/-! ### What a loop that is over leaves -/

/-- If the loop is over, the connection shows a terminal state. -/
def Concluded (w : Situation T) : Prop :=
  ∀ l, w.connection.loop = some l → l.wait = .finished →
    w.connection.lifecycle.value.isTerminal = true

/-- The last word of a loop is a terminal state, passage by passage. -/
theorem Concluded.follow {w : Situation T} {l l' : Loop T} {deeds : List (Loop.Record T)}
    {s : Loop.Sight T} (concluded : Concluded w) (hloop : w.connection.loop = some l)
    (passage : Loop.Passage s l deeds l') : Concluded (w.follow l' deeds) := by
  intro l₁ hl₁ hover
  have hl' : (w.follow l' deeds).connection.loop = some l' := foldl_record_loop _ _
  obtain rfl := Option.some.inj (hl'.symm.trans hl₁)
  rcases lifecycle_of_passage w passage with ⟨hsame, rfl | ⟨-, hgoing⟩⟩ | hiff
  · rw [hsame]
    exact concluded _ hloop hover
  · exact absurd hover hgoing
  · exact hiff.mpr hover

theorem Course.concluded {channels : Ring Channel} {operand : Watch T} {h : List (Deed T)}
    {w : Situation T} (course : Course channels operand h w) : Concluded w := by
  induction course with
  | start => exact fun _ hl => nomatch hl
  | @step h w deeds w' _ last ih =>
    cases last with
    | start policy =>
      intro l hl hover
      simp only [Connection.start] at hl ⊢
      split at hl
      · obtain rfl := Option.some.inj hl
        cases hover
      · rename_i hold
        rw [if_neg hold]
        exact ih l hl hover
    | close =>
      have hcloses := closes_close w.connection
      generalize w.connection.close.1 = c, w.connection.closeDeeds = deeds at hcloses ⊢
      cases hcloses with
      | claim | terminal => exact ih
      | publish => exact fun _ _ _ => rfl
    | cancel | publish | orphan => exact ih
    | notice hnotice =>
      obtain ⟨l, l', records, hloop, -, hstep, hw, -⟩ := step_of_notice? hnotice
      rw [hw]
      exact ih.follow hloop hstep.passage
    | answer r hidle =>
      cases hloop : w.connection.loop with
      | none => simpa [answer_of_loop_none hloop] using ih
      | some l =>
        obtain ⟨l', records, hstep, hw, -⟩ := step_of_answer hloop r
        rw [hw]
        exact ih.follow hloop hstep.passage

/-- A loop that is over has no channel any more: it began to release all that it got, and has
released them. -/
theorem Course.custody {channels : Ring Channel} {operand : Watch T} {h : List (Deed T)}
    {w : Situation T} {l : Loop T} (course : Course channels operand h w)
    (hloop : w.connection.loop = some l) (hover : l.wait = .finished) :
    Loop.Custody (h.filterMap Deed.event?) none none none := by
  have hfollows := course.follows
  simp only [Follows, hloop] at hfollows
  obtain ⟨policy, records, loop, hrecords⟩ := hfollows
  rw [← hrecords]
  exact loop.keeps.custody hover (by simp)

/-- **A loop that is over has released every channel that it got**, and the connection shows a
terminal state. -/
theorem Course.conclusion {channels : Ring Channel} {operand : Watch T} {h : List (Deed T)}
    {w : Situation T} {l : Loop T} (course : Course channels operand h w)
    (hloop : w.connection.loop = some l) (hover : l.wait = .finished) :
    w.connection.lifecycle.value.isTerminal = true ∧
      Loop.obtained (h.filterMap Deed.event?) = Loop.released (h.filterMap Deed.event?) :=
  ⟨course.concluded l hloop hover, (course.custody hloop hover).obtained_eq⟩

end Connection

end InterestMux
