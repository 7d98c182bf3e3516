import InterestMux.Proofs.Loop.Course

/-!
# Loops that are to stop

A loop that is told to stop looks at that first, so at most points it only has to release its
channel and to publish the closed state. There are two exceptions: a loop that has not yet run
announces an attempt before it looks, and a loop that is releasing a failed channel says so once
the channel is released. The release of a channel is also all that such a loop can wait for. A loop
that is over does nothing at all.

## Main definitions

* `Loop.isSettled` : the points from which a loop that is to stop publishes the closed state only.
* `Loop.isParting` : the points at which a loop that is to stop can wait.
* `Loop.Event.isParting` : what a loop that is to stop can do.

## Main results

* `Loop.notice?_cancelled` : what a loop that is to stop does of its own accord.
* `Loop.settled_notice?`, `Loop.settled_answer` : a settled loop that is to stop stays settled.
* `Loop.parting_notice?`, `Loop.parting_answer` : a loop that is to stop only releases its channel.
* `Loop.Passage.of_not_running`, `Loop.Step.of_not_running` : a loop that is over takes no step any
  more.
-/

namespace InterestMux.Loop

variable {T : Type} {l : Loop T} {s : Sight T}

/-- A loop that is to stop has no state but the closed one left to publish. -/
def isSettled (l : Loop T) : Bool :=
  match l.wait with
  | .spawned | .releasing _ (.failed _) => false
  | _ => true

theorem notice?_cancelled (hcancelled : s.cancelled = true) :
    l.notice? s =
      match l.wait with
      | .spawned => some (l.attempt true)
      | .creating | .resting => some l.stop
      | .replaying c _ => some (l.release c .stopped)
      | .serving c | .applying c _ => some (l.withdraw c .stopped)
      | .releasing _ _ | .finished | .crashed => none := by
  cases hwait : l.wait <;> simp [notice?, hwait, hcancelled]

/-- The only state among events is the closed one. -/
def OnlyCloses (events : List (Event T)) : Prop :=
  ∀ state, .published state ∈ events → state = .closed

theorem settled_notice? {result : Result T} (hcancelled : s.cancelled = true)
    (hsettled : l.isSettled = true) (h : l.notice? s = some result) :
    result.1.isSettled = true ∧ OnlyCloses result.2 := by
  rw [notice?_cancelled hcancelled] at h
  cases hwait : l.wait with
  | spawned => simp [isSettled, hwait] at hsettled
  | creating | resting =>
    simp only [hwait, Option.some.injEq] at h
    subst h
    exact ⟨rfl, by simp [OnlyCloses, stop]⟩
  | replaying c x =>
    simp only [hwait, Option.some.injEq] at h
    subst h
    exact ⟨rfl, by simp [OnlyCloses, release]⟩
  | serving c | applying c x =>
    simp only [hwait, Option.some.injEq] at h
    subst h
    exact ⟨rfl, by simp [OnlyCloses, withdraw, release]⟩
  | releasing c verdict | finished | crashed => simp [hwait] at h

theorem settled_answer (r : Reply) (hcancelled : s.cancelled = true) (hsettled : l.isSettled = true)
    (h : l.notice? s = none) :
    (l.answer s r).1.isSettled = true ∧ OnlyCloses (l.answer s r).2 := by
  rw [notice?_cancelled hcancelled] at h
  cases hwait : l.wait with
  | releasing c verdict =>
    cases verdict with
    | failed reason => simp [isSettled, hwait] at hsettled
    | stopped =>
      cases r with
      | released => simp [answer, hwait, proceed, stop, isSettled, OnlyCloses]
      | broke => simp [answer, hwait, isSettled, OnlyCloses]
      | created | refused | applied | rejected | elapsed =>
        simp only [answer, hwait]
        exact ⟨hsettled, fun _ hmem => absurd hmem List.not_mem_nil⟩
  | finished | crashed =>
    simp only [answer, hwait]
    exact ⟨hsettled, fun _ hmem => absurd hmem List.not_mem_nil⟩
  | spawned | creating | replaying | serving | applying | resting => simp [hwait] at h

/-! ### What is left to wait for -/

/-- The loop waits for the release of a channel, or is over. -/
def isParting (l : Loop T) : Bool :=
  match l.wait with
  | .releasing _ _ | .finished | .crashed => true
  | _ => false

/-- Part of the way out of a loop: it takes back and releases the channel that it has, and tells
how matters stand. -/
def Event.isParting : Event T → Bool
  | .withdrawn | .releasing _ | .released _ | .scheduled _ _ _ | .abandoned _ _ | .published _ =>
    true
  | _ => false

/-- A loop that is to stop has something to do at once, unless it waits for a release or is over. -/
theorem isSome_notice?_cancelled (hcancelled : s.cancelled = true) :
    (l.notice? s).isSome = !l.isParting := by
  rw [notice?_cancelled hcancelled, isParting]
  cases l.wait <;> rfl

theorem parting_fail (l : Loop T) (reason : Failure) :
    (l.fail true reason).1.wait = .finished ∧ ∀ e ∈ (l.fail true reason).2, e.isParting = true := by
  cases hretry : l.policy.shouldRetry (countFailure l.failures) <;>
    simp [fail, hretry, stop, Event.isParting]

/-- **What a loop that is to stop does of its own accord is part of its way out**, and the loop has
nothing more to do of its own accord then. -/
theorem parting_notice? {result : Result T} (hcancelled : s.cancelled = true)
    (h : l.notice? s = some result) :
    result.1.isParting = true ∧ ∀ e ∈ result.2, e.isParting = true := by
  rw [notice?_cancelled hcancelled] at h
  cases hwait : l.wait with
  | spawned =>
    simp only [hwait, Option.some.injEq] at h
    subst h
    simp [attempt, stop, isParting, Event.isParting]
  | creating | resting =>
    simp only [hwait, Option.some.injEq] at h
    subst h
    simp [stop, isParting, Event.isParting]
  | replaying c x | serving c | applying c x =>
    simp only [hwait, Option.some.injEq] at h
    subst h
    simp [withdraw, release, isParting, Event.isParting]
  | releasing c verdict | finished | crashed => simp [hwait] at h

/-- **What a loop that is to stop does when its channel is released is part of its way out**, and it
is over then. Other answers do not reach it. -/
theorem parting_answer (r : Reply) (hcancelled : s.cancelled = true)
    (hparting : l.isParting = true) :
    (l.answer s r).1.isParting = true ∧ (r = .released → (l.answer s r).1.isRunning = false) ∧
      ∀ e ∈ (l.answer s r).2, e.isParting = true := by
  cases hwait : l.wait with
  | releasing c verdict =>
    cases r with
    | released =>
      cases verdict with
      | stopped => simp [answer, hwait, proceed, stop, isParting, isRunning, Event.isParting]
      | failed reason =>
        obtain ⟨hfinished, hevents⟩ := parting_fail l reason
        simpa [answer, hwait, proceed, hcancelled, isParting, isRunning, Event.isParting,
          hfinished] using hevents
    | broke => simp [answer, hwait, isParting]
    | created | refused | applied | rejected | elapsed =>
      simp [answer, hwait, isParting]
  | finished | crashed => simp [answer, hwait, isParting, isRunning]
  | spawned | creating | replaying | serving | applying | resting =>
    simp [isParting, hwait] at hparting

/-! ### Loops that are over -/

theorem isRunning_eq_false_iff : l.isRunning = false ↔ l.wait = .finished ∨ l.wait = .crashed := by
  cases hwait : l.wait <;> simp [isRunning, hwait]

theorem notice?_of_not_running (hover : l.isRunning = false) : l.notice? s = none := by
  cases hwait : l.wait <;> simp [isRunning, hwait] at hover <;> simp [notice?, hwait]

theorem answer_of_not_running (r : Reply) (hover : l.isRunning = false) :
    l.answer s r = (l, []) := by
  cases hwait : l.wait <;> simp [isRunning, hwait] at hover <;> simp [answer, hwait]

/-- **A loop that is over has no passage any more.** -/
theorem Passage.of_not_running {l' : Loop T} {deeds : List (Record T)} (hover : l.isRunning = false)
    (passage : Passage s l deeds l') : l' = l ∧ deeds = [] := by
  have hnot (hrunning : l.isRunning = true) : False := by simp [hover] at hrunning
  cases passage with
  | stay => exact ⟨rfl, rfl⟩
  | attempt hwait | attemptStopped hwait | stop hwait =>
    rcases hwait with hwait | hwait <;> exact (hnot (by rw [isRunning, hwait])).elim
  | withdraw hwait | lose _ hwait =>
    exact (hnot (isRunning_of_channel? (channel?_of_established hwait))).elim
  | refuse hwait | replay _ hwait | obtainStopped _ hwait | replayStopped hwait
  | replayRejected _ hwait | establish hwait | orphan hwait | reject _ hwait | apply hwait
  | accept hwait | releaseStopped hwait | releaseFailed hwait =>
    exact (hnot (by rw [isRunning, hwait])).elim
  | crash hcalling => exact (hnot (isRunning_of_isCalling hcalling)).elim

/-- **A loop that is over takes no step any more.** -/
theorem Step.of_not_running {l' : Loop T} {deeds : List (Record T)} (hover : l.isRunning = false)
    (step : Step s l deeds l') : l' = l ∧ deeds = [] :=
  step.passage.of_not_running hover

end InterestMux.Loop
