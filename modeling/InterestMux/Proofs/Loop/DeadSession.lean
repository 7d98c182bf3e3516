import InterestMux.Proofs.Loop.Course

/-!
# Dead sessions

A loop that holds a channel should find out that the session has ended, whatever else it waits
for. It does so wherever the channel is established, idle or with an operand under way. While it
replays the first operand it does not look at the session: a replay that never comes to an end
keeps the loop with a dead channel until it is told to stop.

## Main definitions

* `Loop.GivesUp` : the next look of the loop gives its channel up.

## Main results

* `Loop.Course.failures_eq_zero` : no failure is counted while a channel is established.
* `Loop.Course.givesUp_iff` : a loop gives a dead channel up exactly if it is established.
-/

namespace InterestMux.Loop

variable {T : Type}

/-- The loop holds a channel that is established. -/
def isEstablished (l : Loop T) : Bool :=
  match l.wait with
  | .serving _ | .applying _ _ => true
  | _ => false

/-- At its next look the loop leaves the call that it may wait for, learns of the failure, and
starts to release the channel. Once the channel is released, whatever the loop sees then, it has
counted the failure, and backs off for the reason or is exhausted. -/
def GivesUp (l : Loop T) (s : Sight T) (c : Channel) (reason : Failure) : Prop :=
  ∃ l' deeds, l.notice? s = some (l', deeds) ∧ l.failureSeen? s = some reason ∧
    .releasing c ∈ deeds ∧ l'.channel? = none ∧
    ∀ s', (l'.answer s' .released).1.failures = 1 ∧
      (.published (.backoff 1 l.policy.delay reason.message) ∈ (l'.answer s' .released).2 ∨
        .published (.exhausted 1) ∈ (l'.answer s' .released).2)

/-- A loop that withdraws its channel on account of a failure gives it up. -/
theorem givesUp_of_withdraw {l : Loop T} {s : Sight T} {c : Channel} {reason : Failure}
    (hzero : l.failures = 0) (h : l.notice? s = some (l.withdraw c (.failed reason)))
    (hreason : l.failureSeen? s = some reason) : l.GivesUp s c reason := by
  refine ⟨_, _, h, hreason, ?_, rfl, fun s' => ?_⟩
  · exact List.mem_cons_of_mem _ List.mem_cons_self
  · obtain ⟨hcount, hpublished⟩ :=
      fail_spec ({ l with wait := .releasing c (.failed reason) } : Loop T) s'.cancelled reason
    have hone : countFailure l.failures = 1 := by rw [hzero]; rfl
    rw [hone] at hcount hpublished
    exact ⟨hcount, hpublished.imp (List.mem_cons_of_mem _) (List.mem_cons_of_mem _)⟩

/-- While it replays the first operand, only being told to stop moves a loop of its own accord. -/
theorem notice?_replaying {l : Loop T} {s : Sight T} {c : Channel} {x : T}
    (hwait : l.wait = .replaying c x) (hlive : s.cancelled = false) : l.notice? s = none := by
  simp [notice?, hwait, hlive]

variable {policy : RetryPolicy} {h : List (Record T)} {l : Loop T}

theorem Course.failures_eq_zero (course : Course policy h l) :
    l.isEstablished = true → l.failures = 0 := by
  induction course with
  | start => exact fun _ => rfl
  | @step _ l₀ _ l₁ _ last ih =>
    obtain ⟨s, hstep⟩ := last
    cases hstep.passage with
    | stay => exact ih
    | establish => exact fun _ => rfl
    | apply hwait => exact fun _ => ih (by rw [isEstablished, hwait])
    | accept hwait => exact fun _ => ih (by rw [isEstablished, hwait])
    | refuse _ hafter | releaseFailed _ hafter =>
      cases hafter <;> exact fun hestablished => by cases hestablished
    | attempt | attemptStopped | stop | replay | obtainStopped | replayStopped | replayRejected
    | withdraw | orphan | lose | reject | releaseStopped | crash =>
      exact fun hestablished => by cases hestablished

/-- **A dead channel is given up exactly if it is established.** Take any loop that holds a
channel, and any sight in which the session has ended and the loop is not to stop. If the channel is
established, the next look gives it up, even if an operand is under way. If the first operand is
still being replayed, the loop does nothing. -/
theorem Course.givesUp_iff (course : Course policy h l) {s : Sight T} {c : Channel}
    {ending : SessionEnd} (hheld : l.channel? = some c) (hlive : s.cancelled = false)
    (hdead : s.ended = some ending) :
    (l.GivesUp s c ending.reason ↔ l.isEstablished = true) ∧
      (l.isEstablished = false → l.notice? s = none) := by
  have hzero := course.failures_eq_zero
  cases hwait : l.wait with
  | replaying c' x =>
    have hnotice := notice?_replaying hwait hlive
    refine ⟨⟨?_, fun hestablished => ?_⟩, fun _ => hnotice⟩
    · rintro ⟨_, _, hsome, -⟩
      rw [hnotice] at hsome
      cases hsome
    · simp [isEstablished, hwait] at hestablished
  | serving c' =>
    obtain rfl : c' = c := by simpa [channel?, hwait] using hheld
    have hestablished : l.isEstablished = true := by rw [isEstablished, hwait]
    refine ⟨⟨fun _ => hestablished, fun _ => ?_⟩, fun hnot => by simp [hestablished] at hnot⟩
    exact givesUp_of_withdraw (hzero hestablished) (by simp [notice?, hwait, hlive, hdead])
      (by simp [failureSeen?, hwait, hlive, hdead])
  | applying c' x =>
    obtain rfl : c' = c := by simpa [channel?, hwait] using hheld
    have hestablished : l.isEstablished = true := by rw [isEstablished, hwait]
    refine ⟨⟨fun _ => hestablished, fun _ => ?_⟩, fun hnot => by simp [hestablished] at hnot⟩
    exact givesUp_of_withdraw (hzero hestablished) (by simp [notice?, hwait, hlive, hdead])
      (by simp [failureSeen?, hwait, hlive, hdead])
  | spawned | creating | releasing | resting | finished | crashed =>
    simp [channel?, hwait] at hheld

/-- A later operand that is never taken does not keep a dead channel. -/
theorem givesUp_during_change :
    ∃ (h : List (Record Nat)) (l : Loop Nat) (s : Sight Nat), Course {} h l ∧
      l.wait = .applying ⟨0, none⟩ 8 ∧ l.channel? = some ⟨0, none⟩ ∧ s.cancelled = false ∧
      s.ended = some .completed ∧ l.GivesUp s ⟨0, none⟩ .channelCompleted := by
  let before : Sight Nat := { operand := ⟨7, 0⟩ }
  let after : Sight Nat := { operand := ⟨8, 1⟩ }
  let dead : Sight Nat := { operand := ⟨8, 1⟩, ended := some .completed }
  have spawned : Course {} ([] : List (Record Nat)) _ := .start
  have obtained := (spawned.look before rfl).hear before (.created ⟨0, none⟩)
  have course := (obtained.hear before .applied).look after rfl
  have hdead : dead.ended = some .completed := rfl
  exact ⟨_, _, dead, course, rfl, rfl, rfl, hdead, (course.givesUp_iff rfl rfl hdead).1.mpr rfl⟩

/-- A first operand that is never taken does: the session is dead, nobody told the loop to stop,
and the loop does nothing. -/
theorem not_givesUp_during_replay :
    ∃ (h : List (Record Nat)) (l : Loop Nat) (s : Sight Nat), Course {} h l ∧
      l.channel? = some ⟨0, none⟩ ∧ s.cancelled = false ∧ s.ended = some .completed ∧
      l.notice? s = none ∧ ¬ l.GivesUp s ⟨0, none⟩ .channelCompleted := by
  let calm : Sight Nat := { operand := ⟨7, 0⟩ }
  let dead : Sight Nat := { operand := ⟨7, 0⟩, ended := some .completed }
  have spawned : Course {} ([] : List (Record Nat)) _ := .start
  have course := (spawned.look calm rfl).hear calm (.created ⟨0, none⟩)
  refine ⟨_, _, dead, course, rfl, rfl, rfl, rfl, ?_⟩
  rintro ⟨_, _, hsome, -⟩
  cases hsome

end InterestMux.Loop
