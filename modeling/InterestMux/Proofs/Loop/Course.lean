import InterestMux.Connection.Loop
import InterestMux.Proofs.Course

/-!
# Courses of the reconnect loop

A step of the loop is a look around or an answer to its call, with any sight and any answer. Its
record is what the loop does, after the failure that it learns of, if it does: a channel that is
not to be had, an operand that is rejected, or the end of a session. The failures are recorded on
their own, so that what the loop counts can be compared with what happened.

What a step can do is said once, in `Passage`, with the points it leads from and to and with the
conditions on it.

## Main definitions

* `Loop.Record`, `Loop.Step`, `Loop.Course`
* `Loop.Passage` : the ways from one waiting point to another.
* `Loop.Aftermath` : what may follow a failure.

## Main results

* `Loop.Step.passage` : every step is a passage.
* `Loop.Passage.policy_eq` : a loop keeps its policy.
-/

namespace InterestMux.Loop

variable {T : Type}

/-- An entry in the history of a loop. -/
inductive Record (T : Type) where
  /-- The loop learns of a failure. -/
  | failure (reason : Failure)
  /-- The loop does something. -/
  | did (e : Event T)
deriving DecidableEq

/-- The failure that the loop learns of by looking around: the session of an established channel
has ended. A loop that is to stop does not care. -/
def failureSeen? (l : Loop T) (s : Sight T) : Option Failure :=
  match l.wait with
  | .serving _ | .applying _ _ => if s.cancelled then none else s.ended.map SessionEnd.reason
  | _ => none

/-- The failure that an answer tells the loop of: a channel is not to be had, or an operand is
rejected. -/
def failureHeard? (l : Loop T) (r : Reply) : Option Failure :=
  match l.wait, r with
  | .creating, .refused reason => some reason
  | .replaying _ _, .rejected reason => some reason
  | .applying _ _, .rejected reason => some reason
  | _, _ => none

/-- The entries for a step. -/
def records (failure : Option Failure) (events : List (Event T)) : List (Record T) :=
  failure.toList.map .failure ++ events.map .did

/-- A step of the loop with the sight it has, whatever the sight and whatever the answer. -/
inductive Step (s : Sight T) : Loop T → List (Record T) → Loop T → Prop
  | notice {l : Loop T} {result : Result T} (h : l.notice? s = some result) :
    Step s l (records (l.failureSeen? s) result.2) result.1
  | answer (l : Loop T) (r : Reply) :
    Step s l (records (l.failureHeard? r) (l.answer s r).2) (l.answer s r).1

/-- A course of a loop that starts with a policy. What the loop sees may change between any two
steps, in any way. -/
abbrev Course (policy : RetryPolicy) : List (Record T) → Loop T → Prop :=
  InterestMux.Course (fun l deeds l' => ∃ s, Step s l deeds l') { policy }

section Course

variable {policy : RetryPolicy} {history : List (Record T)} {l : Loop T}

theorem Course.look (course : Course policy history l) (s : Sight T) {result : Result T}
    (h : l.notice? s = some result) :
    Course policy (history ++ records (l.failureSeen? s) result.2) result.1 :=
  .step course ⟨s, .notice h⟩

theorem Course.hear (course : Course policy history l) (s : Sight T) (r : Reply) :
    Course policy (history ++ records (l.failureHeard? r) (l.answer s r).2) (l.answer s r).1 :=
  .step course ⟨s, .answer l r⟩

end Course

/-! ### Passages -/

theorem fail_spec (l : Loop T) (cancelled : Bool) (reason : Failure) :
    (l.fail cancelled reason).1.failures = countFailure l.failures ∧
      (.published (.backoff (countFailure l.failures) l.policy.delay reason.message) ∈
          (l.fail cancelled reason).2 ∨
        .published (.exhausted (countFailure l.failures)) ∈ (l.fail cancelled reason).2) := by
  cases hretry : l.policy.shouldRetry (countFailure l.failures) with
  | false => simp [fail, hretry]
  | true => cases cancelled <;> simp [fail, hretry, stop]

/-- The loop waits for the answer to a call that can break down, or for the end of a session, which
can break down too. -/
def isCalling (l : Loop T) : Bool :=
  match l.wait with
  | .creating | .replaying _ _ | .serving _ | .applying _ _ | .releasing _ _ => true
  | _ => false

theorem isRunning_of_isCalling {l : Loop T} (h : l.isCalling = true) : l.isRunning = true := by
  cases hwait : l.wait <;> simp [isCalling, isRunning, hwait] at h ⊢

theorem channel?_of_established {l : Loop T} {c : Channel}
    (hwait : l.wait = .serving c ∨ ∃ x, l.wait = .applying c x) : l.channel? = some c := by
  rcases hwait with hwait | ⟨x, hwait⟩ <;> rw [channel?, hwait]

theorem isRunning_of_channel? {l : Loop T} {c : Channel} (h : l.channel? = some c) :
    l.isRunning = true := by
  cases hwait : l.wait <;> simp [channel?, isRunning, hwait] at h ⊢

/-- What may follow a failure: the loop rests, or would rest but is to stop, or gives up. -/
inductive Aftermath (s : Sight T) (l : Loop T) (reason : Failure) :
    List (Record T) → Loop T → Prop
  | rest (n : UInt32) (hn : n = countFailure l.failures) (hretry : l.policy.shouldRetry n = true)
      (hlive : s.cancelled = false) :
    Aftermath s l reason
      [.did (.scheduled n l.policy.delay reason),
        .did (.published (.backoff n l.policy.delay reason.message)), .did (.rested l.policy.delay)]
      { l with failures := n, wait := .resting }
  | stop (n : UInt32) (hn : n = countFailure l.failures) (hretry : l.policy.shouldRetry n = true)
      (hcancelled : s.cancelled = true) :
    Aftermath s l reason
      [.did (.scheduled n l.policy.delay reason),
        .did (.published (.backoff n l.policy.delay reason.message)), .did (.published .closed)]
      { l with failures := n, wait := .finished }
  | giveUp (n : UInt32) (hn : n = countFailure l.failures)
      (hretry : l.policy.shouldRetry n = false) :
    Aftermath s l reason [.did (.abandoned n reason), .did (.published (.exhausted n))]
      { l with failures := n, wait := .finished }

/-- The ways of a loop from one waiting point to another, or back to where it was. -/
inductive Passage (s : Sight T) (l : Loop T) : List (Record T) → Loop T → Prop
  /-- An answer to another call changes nothing. -/
  | stay : Passage s l [] l
  | attempt (hwait : l.wait = .spawned ∨ l.wait = .resting) (hlive : s.cancelled = false) :
    Passage s l [.did (.published (.connecting (l.failures + 1))), .did .requested]
      { l with wait := .creating }
  | attemptStopped (hwait : l.wait = .spawned ∨ l.wait = .resting)
      (hcancelled : s.cancelled = true) :
    Passage s l [.did (.published (.connecting (l.failures + 1))), .did (.published .closed)]
      { l with wait := .finished }
  | stop (hwait : l.wait = .creating ∨ l.wait = .resting) (hcancelled : s.cancelled = true) :
    Passage s l [.did (.published .closed)] { l with wait := .finished }
  | refuse {reason : Failure} {after : List (Record T)} {l' : Loop T} (hwait : l.wait = .creating)
      (h : Aftermath s l reason after l') : Passage s l (.failure reason :: after) l'
  | replay (c : Channel) (hwait : l.wait = .creating) (hlive : s.cancelled = false) :
    Passage s l [.did (.obtained c), .did (.bound c s.operand.value s.operand.version)]
      { l with seen := s.operand.version, wait := .replaying c s.operand.value }
  | obtainStopped (c : Channel) (hwait : l.wait = .creating) (hcancelled : s.cancelled = true) :
    Passage s l [.did (.obtained c), .did (.releasing c)]
      { l with seen := s.operand.version, wait := .releasing c .stopped }
  | replayStopped {c : Channel} {x : T} (hwait : l.wait = .replaying c x)
      (hcancelled : s.cancelled = true) :
    Passage s l [.did (.releasing c)] { l with wait := .releasing c .stopped }
  | replayRejected {c : Channel} {x : T} (reason : Failure) (hwait : l.wait = .replaying c x) :
    Passage s l [.failure reason, .did (.releasing c)]
      { l with wait := .releasing c (.failed reason) }
  | establish {c : Channel} {x : T} (hwait : l.wait = .replaying c x) :
    Passage s l
      [.did (.accepted c x), .did (.established c (l.generation + 1)),
        .did (.published (.connected (l.generation + 1)))]
      { l with generation := l.generation + 1, failures := 0, wait := .serving c }
  | withdraw {c : Channel} (hwait : l.wait = .serving c ∨ ∃ x, l.wait = .applying c x)
      (hcancelled : s.cancelled = true) :
    Passage s l [.did .withdrawn, .did (.releasing c)] { l with wait := .releasing c .stopped }
  | orphan {c : Channel} (hwait : l.wait = .serving c) (hlive : s.cancelled = false)
      (hsession : s.ended = none) (hseen : s.operand.changedSince l.seen = false)
      (hsupplied : s.supplied = false) :
    Passage s l [.did .orphaned, .did .withdrawn, .did (.releasing c)]
      { l with wait := .releasing c .stopped }
  /-- The session of an established channel has ended. -/
  | lose {c : Channel} (ending : SessionEnd)
      (hwait : l.wait = .serving c ∨ ∃ x, l.wait = .applying c x) (hlive : s.cancelled = false)
      (hsession : s.ended = some ending) :
    Passage s l [.failure ending.reason, .did .withdrawn, .did (.releasing c)]
      { l with wait := .releasing c (.failed ending.reason) }
  | reject {c : Channel} {x : T} (reason : Failure) (hwait : l.wait = .applying c x) :
    Passage s l [.failure reason, .did .withdrawn, .did (.releasing c)]
      { l with wait := .releasing c (.failed reason) }
  | apply {c : Channel} (hwait : l.wait = .serving c) (hlive : s.cancelled = false)
      (hsession : s.ended = none) (hseen : s.operand.changedSince l.seen = true) :
    Passage s l [.did (.bound c s.operand.value s.operand.version)]
      { l with seen := s.operand.version, wait := .applying c s.operand.value }
  | accept {c : Channel} {x : T} (hwait : l.wait = .applying c x) :
    Passage s l [.did (.accepted c x)] { l with wait := .serving c }
  | releaseStopped {c : Channel} (hwait : l.wait = .releasing c .stopped) :
    Passage s l [.did (.released c), .did (.published .closed)] { l with wait := .finished }
  | releaseFailed {c : Channel} {reason : Failure} {after : List (Record T)} {l' : Loop T}
      (hwait : l.wait = .releasing c (.failed reason)) (h : Aftermath s l reason after l') :
    Passage s l (.did (.released c) :: after) l'
  /-- What the loop waits for breaks down. -/
  | crash (hcalling : l.isCalling = true) : Passage s l [] { l with wait := .crashed }

theorem aftermath_fail (s : Sight T) (l : Loop T) (reason : Failure) :
    Aftermath s l reason ((l.fail s.cancelled reason).2.map .did)
      (l.fail s.cancelled reason).1 := by
  cases hretry : l.policy.shouldRetry (countFailure l.failures) with
  | false =>
    simp only [fail, hretry]
    exact .giveUp _ rfl hretry
  | true =>
    cases hcancelled : s.cancelled with
    | false =>
      simp only [fail, hretry]
      exact .rest _ rfl hretry hcancelled
    | true =>
      simp only [fail, hretry]
      exact .stop _ rfl hretry hcancelled

theorem passage_attempt {s : Sight T} {l : Loop T}
    (hwait : l.wait = .spawned ∨ l.wait = .resting) :
    Passage s l ((l.attempt s.cancelled).2.map .did) (l.attempt s.cancelled).1 := by
  cases hcancelled : s.cancelled with
  | false => exact .attempt hwait hcancelled
  | true => exact .attemptStopped hwait hcancelled

theorem passage_of_notice? {s : Sight T} {l : Loop T} {result : Result T}
    (h : l.notice? s = some result) :
    Passage s l (records (l.failureSeen? s) result.2) result.1 := by
  cases hwait : l.wait with
  | spawned =>
    simp only [notice?, hwait, Option.some.injEq] at h
    subst h
    simpa [failureSeen?, records, hwait] using passage_attempt (.inl hwait)
  | creating =>
    simp only [notice?, hwait, Option.ite_none_right_eq_some, Option.some.injEq] at h
    obtain ⟨hcancelled, rfl⟩ := h
    simp only [failureSeen?, records, hwait]
    exact .stop (.inl hwait) hcancelled
  | replaying c x =>
    simp only [notice?, hwait, Option.ite_none_right_eq_some, Option.some.injEq] at h
    obtain ⟨hcancelled, rfl⟩ := h
    simp only [failureSeen?, records, hwait]
    exact .replayStopped hwait hcancelled
  | serving c =>
    simp only [notice?, hwait] at h
    simp only [failureSeen?, records, hwait]
    cases hcancelled : s.cancelled with
    | true =>
      simp only [hcancelled, if_true, Option.some.injEq] at h
      subst h
      exact .withdraw (.inl hwait) hcancelled
    | false =>
      cases hsession : s.ended with
      | some ending =>
        simp only [hcancelled, hsession, Bool.false_eq_true, if_false, Option.some.injEq] at h
        subst h
        exact .lose ending (.inl hwait) hcancelled hsession
      | none =>
        cases hseen : s.operand.changedSince l.seen with
        | true =>
          simp only [hcancelled, hsession, hseen, Bool.false_eq_true, if_false, if_true,
            Option.some.injEq] at h
          subst h
          exact .apply hwait hcancelled hsession hseen
        | false =>
          cases hsupplied : s.supplied with
          | true => simp [hcancelled, hsession, hseen, hsupplied] at h
          | false =>
            simp only [hcancelled, hsession, hseen, hsupplied, Bool.false_eq_true, if_false,
              Option.some.injEq] at h
            subst h
            exact .orphan hwait hcancelled hsession hseen hsupplied
  | applying c x =>
    simp only [notice?, hwait] at h
    simp only [failureSeen?, records, hwait]
    cases hcancelled : s.cancelled with
    | true =>
      simp only [hcancelled, if_true, Option.some.injEq] at h
      subst h
      exact .withdraw (.inr ⟨x, hwait⟩) hcancelled
    | false =>
      simp only [hcancelled, Bool.false_eq_true, if_false, Option.map_eq_some_iff] at h
      obtain ⟨ending, hsession, rfl⟩ := h
      rw [hsession]
      exact .lose ending (.inr ⟨x, hwait⟩) hcancelled hsession
  | resting =>
    simp only [notice?, hwait, Option.ite_none_right_eq_some, Option.some.injEq] at h
    obtain ⟨hcancelled, rfl⟩ := h
    simp only [failureSeen?, records, hwait]
    exact .stop (.inr hwait) hcancelled
  | releasing c verdict | finished | crashed => simp [notice?, hwait] at h

theorem passage_answer (s : Sight T) (l : Loop T) (r : Reply) :
    Passage s l (records (l.failureHeard? r) (l.answer s r).2) (l.answer s r).1 := by
  cases hwait : l.wait with
  | creating =>
    cases r with
    | created c =>
      simp only [answer, failureHeard?, records, hwait, serve]
      cases hcancelled : s.cancelled with
      | false => exact .replay c hwait hcancelled
      | true => exact .obtainStopped c hwait hcancelled
    | refused reason =>
      simp only [answer, failureHeard?, records, hwait]
      exact .refuse hwait (aftermath_fail s l reason)
    | broke =>
      simp only [answer, failureHeard?, records, hwait]
      exact .crash (by rw [isCalling, hwait])
    | applied | rejected | released | elapsed =>
      simp only [answer, failureHeard?, records, hwait]
      exact .stay
  | replaying c x =>
    cases r with
    | applied =>
      simp only [answer, failureHeard?, records, hwait]
      exact .establish hwait
    | rejected reason =>
      simp only [answer, failureHeard?, records, hwait]
      exact .replayRejected reason hwait
    | broke =>
      simp only [answer, failureHeard?, records, hwait]
      exact .crash (by rw [isCalling, hwait])
    | created | refused | released | elapsed =>
      simp only [answer, failureHeard?, records, hwait]
      exact .stay
  | serving c =>
    cases r with
    | broke =>
      simp only [answer, failureHeard?, records, hwait]
      exact .crash (by rw [isCalling, hwait])
    | created | refused | applied | rejected | released | elapsed =>
      simp only [answer, failureHeard?, records, hwait]
      exact .stay
  | applying c x =>
    cases r with
    | applied =>
      simp only [answer, failureHeard?, records, hwait]
      exact .accept hwait
    | rejected reason =>
      simp only [answer, failureHeard?, records, hwait]
      exact .reject reason hwait
    | broke =>
      simp only [answer, failureHeard?, records, hwait]
      exact .crash (by rw [isCalling, hwait])
    | created | refused | released | elapsed =>
      simp only [answer, failureHeard?, records, hwait]
      exact .stay
  | releasing c verdict =>
    cases r with
    | released =>
      simp only [answer, failureHeard?, records, hwait, proceed]
      cases verdict with
      | stopped => exact .releaseStopped hwait
      | failed reason => exact .releaseFailed hwait (aftermath_fail s l reason)
    | broke =>
      simp only [answer, failureHeard?, records, hwait]
      exact .crash (by rw [isCalling, hwait])
    | created | refused | applied | rejected | elapsed =>
      simp only [answer, failureHeard?, records, hwait]
      exact .stay
  | resting =>
    cases r with
    | elapsed =>
      simp only [answer, failureHeard?, records, hwait]
      exact passage_attempt (.inr hwait)
    | created | refused | applied | rejected | released | broke =>
      simp only [answer, failureHeard?, records, hwait]
      exact .stay
  | spawned | finished | crashed =>
    simp only [answer, failureHeard?, records, hwait]
    exact .stay

/-- **Every step of a loop is one of its passages.** -/
theorem Step.passage {s : Sight T} {l l' : Loop T} {deeds : List (Record T)}
    (h : Step s l deeds l') : Passage s l deeds l' := by
  cases h with
  | notice h => exact passage_of_notice? h
  | answer r => exact passage_answer s l r

/-- **A loop keeps its policy.** -/
theorem Passage.policy_eq {s : Sight T} {l l' : Loop T} {deeds : List (Record T)}
    (h : Passage s l deeds l') : l'.policy = l.policy := by
  cases h with
  | refuse _ hafter | releaseFailed _ hafter => cases hafter <;> rfl
  | _ => rfl

end InterestMux.Loop
