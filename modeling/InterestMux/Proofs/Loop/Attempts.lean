import InterestMux.Proofs.Loop.Ledger
import InterestMux.Proofs.Loop.Stopping

/-!
# The numbers of the attempts

The loop counts failures in a word that stays at its greatest value, and numbers an attempt by one
more than that count. A retry policy with a bound ends the attempts before the count comes to its
greatest value. Without a bound nothing does, and after `2 ^ 32 - 1` failures in a row the number of
the next attempt has no room in a word: it is zero.

The agreement between a loop and its history is extended here to histories with any number of
failures.

## Main definitions

* `Loop.saturated` : a number of failures as the loop counts it.
* `Loop.Counts` : what a passage does to the count, next to the failures of the history.
* `Loop.Counted` : the count of a loop agrees with its history.

## Main results

* `Loop.Passage.counts` : a passage counts each failure once.
* `Loop.Course.counted` : the count of every loop agrees with its history.
* `Loop.Course.attempt_iff` : an attempt has its proper number exactly if fewer than `2 ^ 32 - 1`
  failures came before it in a row.
* `Loop.exists_outage` : the channel can be refused any number of times in a row.
-/

namespace InterestMux.Loop

variable {T : Type}

/-! ### The count -/

/-- The greatest number of failures that the loop counts. -/
def greatestCount : Nat := 4294967295

/-- A number of failures as the loop counts it. -/
def saturated (n : Nat) : UInt32 :=
  .ofNat (min n greatestCount)

@[simp] theorem toNat_saturated (n : Nat) : (saturated n).toNat = min n greatestCount :=
  UInt32.toNat_ofNat_of_lt' (Nat.lt_succ_of_le (Nat.min_le_right n greatestCount))

theorem countFailure_saturated (n : Nat) : countFailure (saturated n) = saturated (n + 1) := by
  have hcount := toNat_saturated n
  have hnext := toNat_saturated (n + 1)
  rw [greatestCount] at hcount hnext
  apply UInt32.toNat_inj.mp
  by_cases hn : n < 4294967295
  · rw [countFailure_eq (by omega), toNat_succ (by omega)]
    omega
  · have hfull : saturated n = 4294967295 := UInt32.toNat_inj.mp (by rw [hcount]; simp; omega)
    rw [countFailure, if_pos hfull]
    omega

/-- One more than the count has its room in a word exactly if the count is not full. -/
theorem toNat_saturated_succ (n : Nat) :
    (saturated n + 1).toNat = if n < greatestCount then n + 1 else 0 := by
  have hcount := toNat_saturated n
  rw [greatestCount] at hcount ⊢
  split
  · rw [toNat_succ (by omega)]
    omega
  · have hfull : saturated n = 4294967295 := UInt32.toNat_inj.mp (by rw [hcount]; simp; omega)
    rw [hfull]
    rfl

/-! ### Counting along a course -/

/-- The number of failures that the loop knows of and has not counted. -/
def owing (l : Loop T) : Nat :=
  if l.owed?.isSome then 1 else 0

/-- What becomes of the count, given the failures in a row before and after. -/
inductive Counts (l l' : Loop T) (row row' : Nat) : Prop
  /-- Nothing is counted; a failure may have become known. -/
  | keep (hfailures : l'.failures = l.failures) (hrow : row' + l.owing = row + l'.owing)
  /-- One failure is counted, and another attempt is to follow. -/
  | count (hfailures : l'.failures = countFailure l.failures)
    (hretry : l.policy.shouldRetry l'.failures = true) (hrow : row' + l.owing = row + 1)
    (howing : l'.owing = 0)
  /-- The loop is connected. -/
  | reset (hfailures : l'.failures = 0) (hrow : row' = 0) (howing : l'.owing = 0)

section Counts

variable {policy : RetryPolicy} {h deeds : List (Record T)} {s : Sight T} {l l' : Loop T}

theorem Aftermath.counts {reason : Failure} (hafter : Aftermath s l reason deeds l')
    (hrunning : l'.isRunning = true) :
    l'.failures = countFailure l.failures ∧ l.policy.shouldRetry l'.failures = true ∧
      l'.owing = 0 ∧ ∀ row, deeds.foldl Record.tally row = row := by
  cases hafter with
  | rest n hn hretry hlive => exact ⟨hn, hretry, rfl, fun _ => rfl⟩
  | stop | giveUp => cases hrunning

/-- **A passage of a loop that goes on counts each failure once**: when it becomes known, or, if a
channel has to be released first, after that. -/
theorem Passage.counts (passage : Passage s l deeds l') (hrunning : l'.isRunning = true)
    (row : Nat) : Counts l l' row (deeds.foldl Record.tally row) := by
  cases passage with
  | stay => exact .keep rfl rfl
  | attempt hwait =>
    rcases hwait with hwait | hwait <;>
      exact .keep rfl (by simp [owing, owed?, hwait, Record.tally, ConnectionState.isConnected])
  | attemptStopped | stop | releaseStopped | crash => cases hrunning
  | refuse hwait hafter =>
    obtain ⟨hfailures, hretry, howing, hrow⟩ := hafter.counts hrunning
    exact .count hfailures hretry (by simp [owing, owed?, hwait, hrow, Record.tally]) howing
  | releaseFailed hwait hafter =>
    obtain ⟨hfailures, hretry, howing, hrow⟩ := hafter.counts hrunning
    exact .count hfailures hretry (by simp [owing, owed?, hwait, hrow, Record.tally]) howing
  | establish => exact .reset rfl rfl rfl
  | replay _ hwait | obtainStopped _ hwait | replayStopped hwait | replayRejected _ hwait
  | orphan hwait | reject _ hwait | apply hwait | accept hwait =>
    exact .keep rfl (by simp [owing, owed?, hwait, Record.tally])
  | withdraw hwait | lose _ hwait =>
    rcases hwait with hwait | ⟨x, hwait⟩ <;>
      exact .keep rfl (by simp [owing, owed?, hwait, Record.tally])

/-- The count of a loop agrees with its history, however many failures there are. -/
structure Counted (policy : RetryPolicy) (h : List (Record T)) (l : Loop T) : Prop where
  policy_eq : l.policy = policy
  /-- Every failure in the row is counted, as far as the count goes, or else owing. -/
  counted : l.isRunning = true → ∃ n, failuresInARow h = n + l.owing ∧ l.failures = saturated n
  /-- So many failures do not end the attempts. -/
  retrying : l.isRunning = true → l.failures = 0 ∨ policy.shouldRetry l.failures = true

theorem Counted.passage (agrees : Counted policy h l) (passage : Passage s l deeds l') :
    Counted policy (h ++ deeds) l' := by
  have hpolicy : l'.policy = policy := passage.policy_eq.trans agrees.policy_eq
  cases hrunning' : l'.isRunning with
  | false => exact ⟨hpolicy, by simp [hrunning'], by simp [hrunning']⟩
  | true =>
    have hrunning : l.isRunning = true := by
      by_contra hover
      obtain ⟨rfl, -⟩ := passage.of_not_running (Bool.not_eq_true _ ▸ hover)
      exact hover hrunning'
    obtain ⟨n, hrow, hfailures⟩ := agrees.counted hrunning
    cases passage.counts hrunning' (failuresInARow h) with
    | keep hsame hrow' =>
      refine ⟨hpolicy, fun _ => ⟨n, ?_, hsame.trans hfailures⟩, fun _ => ?_⟩
      · rw [failuresInARow_append]
        omega
      · rw [hsame]
        exact agrees.retrying hrunning
    | count hmore hretry hrow' howing =>
      refine ⟨hpolicy, fun _ => ⟨n + 1, ?_, ?_⟩, fun _ => .inr (agrees.policy_eq ▸ hretry)⟩
      · rw [failuresInARow_append]
        omega
      · rw [hmore, hfailures, countFailure_saturated]
    | reset hzero hrow' howing =>
      refine ⟨hpolicy, fun _ => ⟨0, ?_, hzero⟩, fun _ => .inl hzero⟩
      rw [failuresInARow_append, hrow', howing]

/-- **The count of every loop agrees with its history**, however many failures there are. -/
theorem Course.counted (course : Course policy h l) : Counted policy h l := by
  induction course with
  | start => exact ⟨rfl, fun _ => ⟨0, rfl, rfl⟩, fun _ => .inl rfl⟩
  | step _ last ih =>
    obtain ⟨s, hstep⟩ := last
    exact ih.passage hstep.passage

/-! ### Attempts -/

/-- An attempt begins when the loop has not yet run or has rested, and its number is one more than
the count. -/
theorem Passage.attempt_eq (passage : Passage s l deeds l') {n : UInt32}
    (hn : .did (.published (.connecting n)) ∈ deeds) :
    (l.wait = .spawned ∨ l.wait = .resting) ∧ n = l.failures + 1 := by
  cases passage with
  | attempt hwait | attemptStopped hwait => exact ⟨hwait, by simpa using hn⟩
  | refuse _ hafter | releaseFailed _ hafter => cases hafter <;> simp at hn
  | _ => simp at hn

/-- A loop for which an attempt is due begins it, when it looks or when its rest is over. -/
theorem step_attempt (s : Sight T) (hwait : l.wait = .spawned ∨ l.wait = .resting) :
    Step s l ((l.attempt s.cancelled).2.map .did) (l.attempt s.cancelled).1 := by
  rcases hwait with hwait | hwait
  · have hlook : l.notice? s = some (l.attempt s.cancelled) := by rw [notice?, hwait]
    simpa [records, failureSeen?, hwait] using Step.notice hlook
  · have rested : Step s l _ _ := .answer l .elapsed
    simpa [records, failureHeard?, answer, hwait] using rested

/-- When an attempt is due, all failures in the row are counted, as far as the count goes. -/
theorem Counted.failures_eq (agrees : Counted policy h l)
    (hwait : l.wait = .spawned ∨ l.wait = .resting) :
    l.failures = saturated (failuresInARow h) := by
  have hrunning : l.isRunning = true := by
    rcases hwait with hwait | hwait <;> rw [isRunning, hwait]
  have howing : l.owing = 0 := by
    rcases hwait with hwait | hwait <;> simp [owing, owed?, hwait]
  obtain ⟨n, hrow, hfailures⟩ := agrees.counted hrunning
  rw [hfailures, hrow, howing, Nat.add_zero]

/-- When an attempt is due under a policy with a bound, the count is not full. -/
theorem Counted.row_lt (agrees : Counted policy h l)
    (hwait : l.wait = .spawned ∨ l.wait = .resting) (hbounded : policy.maxAttempts ≠ none) :
    failuresInARow h < greatestCount := by
  have hrunning : l.isRunning = true := by
    rcases hwait with hwait | hwait <;> rw [isRunning, hwait]
  obtain ⟨bound, hbound⟩ := Option.ne_none_iff_exists'.mp hbounded
  have hcount : l.failures.toNat = min (failuresInARow h) greatestCount := by
    rw [agrees.failures_eq hwait, toNat_saturated]
  have hless : l.failures.toNat < greatestCount := by
    rcases agrees.retrying hrunning with hzero | hretry
    · rw [hzero]
      decide
    · rw [RetryPolicy.shouldRetry, hbound, decide_eq_true_eq, UInt32.lt_iff_toNat_lt] at hretry
      exact Nat.lt_of_lt_of_le hretry (Nat.le_of_lt_succ bound.toNat_lt)
  omega

/-- **An attempt has its proper number exactly if fewer than `2 ^ 32 - 1` failures came before it in
a row.** The number is meant to be one more than the count of the loop. As long as the row is
shorter than that, it is, and it tells the failures in the row; it is at least one. From then on the
sum has no room in a word and the number is zero. A policy with a bound does not let it come so
far. -/
theorem Course.attempt_iff (course : Course policy h l) (step : Step s l deeds l') {n : UInt32}
    (hn : .did (.published (.connecting n)) ∈ deeds) :
    (n.toNat = l.failures.toNat + 1 ↔ failuresInARow h < greatestCount) ∧
      (1 ≤ n ↔ failuresInARow h < greatestCount) ∧
      (failuresInARow h < greatestCount → n.toNat = failuresInARow h + 1) ∧
      (greatestCount ≤ failuresInARow h → n = 0) ∧
      (policy.maxAttempts ≠ none → failuresInARow h < greatestCount) := by
  obtain ⟨hwait, rfl⟩ := step.passage.attempt_eq hn
  have hfailures := course.counted.failures_eq hwait
  have hcount : l.failures.toNat = min (failuresInARow h) greatestCount := by
    rw [hfailures, toNat_saturated]
  have hnumber : (l.failures + 1).toNat =
      if failuresInARow h < greatestCount then failuresInARow h + 1 else 0 := by
    rw [hfailures, toNat_saturated_succ]
  refine ⟨?_, ?_, ?_, ?_, course.counted.row_lt hwait⟩
  · rw [hnumber, hcount]
    split <;> omega
  · rw [UInt32.le_iff_toNat_le, UInt32.toNat_one, hnumber]
    split <;> omega
  · intro hfew
    rw [hnumber, if_pos hfew]
  · intro hmany
    exact UInt32.toNat_inj.mp (by rw [hnumber, if_neg (Nat.not_lt.mpr hmany)]; rfl)

/-- With a policy that allows for two failures, the attempt after the first failure has the number
two. -/
theorem attempt_two_after_refusal :
    ∃ (h deeds : List (Record Unit)) (l l' : Loop Unit) (s : Sight Unit),
      Course { maxAttempts := some 2 } h l ∧ failuresInARow h = 1 ∧ Step s l deeds l' ∧
      .did (.published (.connecting 2)) ∈ deeds ∧ (2 : UInt32).toNat = l.failures.toNat + 1 := by
  let s : Sight Unit := { operand := ⟨(), 0⟩ }
  have started : Course { maxAttempts := some 2 } [] (_ : Loop Unit) := .start
  have asked := started.look s rfl
  have refused := asked.hear s (.refused (.other "down"))
  have hnumber := refused.attempt_iff (step_attempt s (.inr rfl)) List.mem_cons_self
  exact ⟨_, _, _, _, s, refused, rfl, step_attempt s (.inr rfl), List.mem_cons_self,
    hnumber.1.mpr (by decide)⟩

end Counts

/-! ### Outages -/

/-- **A channel can be refused any number of times in a row**, if the policy has no bound, and then
another attempt is due. -/
theorem exists_outage (s : Sight T) (hlive : s.cancelled = false) (reason : Failure) (n : Nat) :
    ∃ (h : List (Record T)) (l : Loop T), Course {} h l ∧
      (l.wait = .spawned ∨ l.wait = .resting) ∧ failuresInARow h = n := by
  induction n with
  | zero => exact ⟨[], _, .start, .inl rfl, rfl⟩
  | succ n ih =>
    obtain ⟨h, l, course, hwait, hrow⟩ := ih
    have hpolicy := course.counted.policy_eq
    have asked : Course {} _ _ := .step course ⟨s, step_attempt s hwait⟩
    refine ⟨_, _, asked.hear s (.refused reason), .inr ?_, ?_⟩
    · simp [attempt, hlive, answer, fail, hpolicy, RetryPolicy.shouldRetry]
    · simp [attempt, hlive, answer, fail, hpolicy, RetryPolicy.shouldRetry, records, failureHeard?,
        failuresInARow_append, hrow, Record.tally, ConnectionState.isConnected]

/-- With the default policy and `2 ^ 32 - 1` refusals in a row, the next attempt has the number
zero. -/
theorem attempt_zero_after_outage :
    ∃ (h deeds : List (Record Unit)) (l l' : Loop Unit) (s : Sight Unit),
      Course {} h l ∧ failuresInARow h = 4294967295 ∧ Step s l deeds l' ∧
      .did (.published (.connecting 0)) ∈ deeds ∧ (0 : UInt32).toNat ≠ l.failures.toNat + 1 := by
  obtain ⟨h, l, course, hwait, hrow⟩ :=
    exists_outage { operand := ⟨(), 0⟩ } rfl (.other "down") 4294967295
  have hfull : l.failures = 4294967295 := by
    rw [course.counted.failures_eq hwait, hrow]
    rfl
  have hzero : (0 : UInt32) = l.failures + 1 := by
    rw [hfull]
    rfl
  refine ⟨h, _, l, _, { operand := ⟨(), 0⟩ }, course, hrow, step_attempt _ hwait, ?_, nofun⟩
  rw [hzero]
  exact List.mem_cons_self

end InterestMux.Loop
