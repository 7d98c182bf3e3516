import InterestMux.Proofs.Loop.Ledger

/-!
# The states that a loop publishes

The states that the loop publishes keep to an order, and the numbers in them say how often and why
it failed. Both follow passage by passage from what the loop keeps count of: the ledger knows the
last publication and the failures in a row, and a passage adds at most two publications.

## Main definitions

* `Loop.MayFollow` : what may be published after a state.
* `Loop.Accounts` : what a state says about the failures before it.
* `Loop.Lawful` : the histories that keep to both.

## Main results

* `Loop.Course.lawful` : all histories of a loop do.
-/

namespace InterestMux.Loop

variable {T : Type}

/-- The second state may be published next after the first. Nothing follows a terminal state. -/
def MayFollow : ConnectionState → ConnectionState → Prop
  | .connecting n, next =>
    (∃ generation, next = .connected generation) ∨
      (∃ delay reason, next = .backoff n delay reason) ∨ next = .exhausted n ∨ next = .closed
  | .connected _, next =>
    (∃ delay reason, next = .backoff 1 delay reason) ∨ next = .exhausted 1 ∨ next = .closed
  | .backoff n _ _, next => (∃ m, m.toNat = n.toNat + 1 ∧ next = .connecting m) ∨ next = .closed
  | .idle, _ | .exhausted _, _ | .closed, _ => False

/-- What an entry says about the failures in the history before it. A loop that backs off has
failed as often in a row as it says, less often than the policy allows, rests as long as the policy
has it, and gives the latest failure as its reason. One that is exhausted has used up all attempts
of the policy, of which there is at least one. -/
def Accounts (policy : RetryPolicy) (before : List (Record T)) : Record T → Prop
  | .did (.published (.backoff n delay text)) =>
    n.toNat = failuresInARow before ∧ (∀ bound, policy.maxAttempts = some bound → n < bound) ∧
      delay = policy.delay ∧ ∃ reason, lastFailure? before = some reason ∧ text = reason.message
  | .did (.published (.exhausted n)) =>
    n.toNat = failuresInARow before ∧
      ∃ bound, policy.maxAttempts = some bound ∧ n.toNat = max bound.toNat 1
  | _ => True

/-- The published states keep to the order, and say what happened. -/
structure Lawful (policy : RetryPolicy) (h : List (Record T)) : Prop where
  starts : ∀ state, (publications h).head? = some state → state = .connecting 1
  follows : (publications h).IsChain MayFollow
  accounted : Throughout (Accounts policy) h

variable {policy : RetryPolicy} {h deeds : List (Record T)} {s : Sight T} {l l' : Loop T}

/-- A history goes on lawfully if what is published first fits what was published last. -/
theorem Lawful.append (lawful : Lawful policy h) {last : ConnectionState}
    (hlast : (publications h).getLast? = some last)
    (hfollows : (last :: publications deeds).IsChain MayFollow)
    (haccounted : Throughout (fun before => Accounts policy (h ++ before)) deeds) :
    Lawful policy (h ++ deeds) where
  starts := fun state hstate => by
    have hne : publications h ≠ [] := fun hnil => by simp [hnil] at hlast
    rw [publications_append, List.head?_append_of_ne_nil _ hne] at hstate
    exact lawful.starts state hstate
  follows := by
    rw [publications_append, List.isChain_append]
    refine ⟨lawful.follows, hfollows.tail, fun x hx y hy => ?_⟩
    obtain rfl : last = x := Option.some.inj (hlast.symm.trans hx)
    exact hfollows.rel_head? hy
  accounted := throughout_append.mpr ⟨lawful.accounted, haccounted⟩

theorem Lawful.append_one (lawful : Lawful policy h) {last state : ConnectionState}
    (hlast : (publications h).getLast? = some last) (hdeeds : publications deeds = [state])
    (hfollow : MayFollow last state)
    (haccounted : Throughout (fun before => Accounts policy (h ++ before)) deeds) :
    Lawful policy (h ++ deeds) := by
  refine lawful.append hlast ?_ haccounted
  rw [hdeeds]
  exact List.isChain_cons_cons.mpr ⟨hfollow, List.isChain_singleton _⟩

theorem Lawful.append_quiet (lawful : Lawful policy h) (hquiet : publications deeds = []) :
    Lawful policy (h ++ deeds) where
  starts := by
    rw [publications_append, hquiet, List.append_nil]
    exact lawful.starts
  follows := by
    rw [publications_append, hquiet, List.append_nil]
    exact lawful.follows
  accounted := by
    refine throughout_append.mpr ⟨lawful.accounted, fun before entry after hdeeds => ?_⟩
    have hentry : entry.publication? = none :=
      List.filterMap_eq_nil_iff.mp hquiet entry (by simp [hdeeds])
    cases entry with
    | failure reason => trivial
    | did e => cases e <;> trivial

theorem Lawful.start (lawful : Lawful policy h) (hnone : (publications h).getLast? = none)
    {rest : List ConnectionState} (hdeeds : publications deeds = .connecting 1 :: rest)
    (hfollows : (publications deeds).IsChain MayFollow)
    (haccounted : Throughout (fun before => Accounts policy (h ++ before)) deeds) :
    Lawful policy (h ++ deeds) := by
  have hnil : publications h = [] := List.getLast?_eq_none_iff.mp hnone
  constructor
  case starts =>
    intro state hstate
    rw [publications_append, hnil, hdeeds] at hstate
    exact (Option.some.inj hstate).symm
  case follows =>
    rw [publications_append, hnil, List.nil_append]
    exact hfollows
  case accounted => exact throughout_append.mpr ⟨lawful.accounted, haccounted⟩

theorem Lawful.attempt (lawful : Lawful policy h) (ledger : Ledger policy h l)
    (few : FewFailures (h ++ deeds)) (hwait : l.wait = .spawned ∨ l.wait = .resting)
    {rest : List ConnectionState}
    (hdeeds : publications deeds = .connecting (l.failures + 1) :: rest)
    (hrest : (ConnectionState.connecting (l.failures + 1) :: rest).IsChain MayFollow)
    (haccounted : Throughout (fun before => Accounts policy (h ++ before)) deeds) :
    Lawful policy (h ++ deeds) := by
  have hshown := ledger.shown
  rcases hwait with hwait | hwait <;> rw [Shows, hwait] at hshown
  · obtain ⟨hfailures, hnone⟩ := hshown
    rw [hfailures] at hdeeds hrest
    exact lawful.start hnone hdeeds (hdeeds ▸ hrest) haccounted
  · obtain ⟨delay, reason, hlast⟩ := hshown
    have hrow := ledger.row_eq (by rw [isRunning, hwait]) (by rw [owed?, hwait])
    have hsucc := toNat_succ (hrow ▸ few.of_append h (List.prefix_refl h))
    refine lawful.append hlast ?_ haccounted
    rw [hdeeds]
    exact List.isChain_cons_cons.mpr ⟨.inl ⟨_, hsucc, rfl⟩, hrest⟩

/-- A count that ends the attempts, while the one before did not, uses up all of them. -/
theorem eq_max_of_not_shouldRetry {n m : UInt32} (hm : m.toNat = n.toNat + 1)
    (hretrying : n = 0 ∨ policy.shouldRetry n = true) (hretry : policy.shouldRetry m = false) :
    ∃ bound, policy.maxAttempts = some bound ∧ m.toNat = max bound.toNat 1 := by
  cases hbound : policy.maxAttempts with
  | none => simp [RetryPolicy.shouldRetry, hbound] at hretry
  | some bound =>
    simp only [RetryPolicy.shouldRetry, hbound, decide_eq_true_eq, decide_eq_false_iff_not,
      UInt32.lt_iff_toNat_lt] at hretrying hretry
    refine ⟨bound, rfl, ?_⟩
    rcases hretrying with rfl | hlt
    · have hone : m.toNat = 1 := hm
      omega
    · omega

theorem accounts_backoff {n : UInt32} {reason : Failure} (hrow : n.toNat = failuresInARow h)
    (hretry : policy.shouldRetry n = true) (hreason : lastFailure? h = some reason) :
    Accounts policy (h ++ [.did (.scheduled n policy.delay reason)])
      (.did (.published (.backoff n policy.delay reason.message))) := by
  refine ⟨?_, fun bound hbound => ?_, rfl, reason, ?_, rfl⟩
  · rw [failuresInARow_append]
    exact hrow
  · simpa [RetryPolicy.shouldRetry, hbound] using hretry
  · rw [lastFailure?_append]
    exact hreason

/-- What is published after a failure carries the new count, as what was published last demands. -/
theorem exists_mayFollow_of_failure {last : Option ConnectionState} {generation : Nat}
    {failures : UInt32} {state : ConnectionState}
    (hlast : last = some (.connecting (failures + 1)) ∨
      failures = 0 ∧ last = some (.connected generation))
    (hstate : (∃ delay reason, state = .backoff (failures + 1) delay reason) ∨
      state = .exhausted (failures + 1)) :
    ∃ before, last = some before ∧ MayFollow before state := by
  rcases hlast with hlast | ⟨rfl, hlast⟩
  · exact ⟨_, hlast, .inr (hstate.imp_right .inl)⟩
  · exact ⟨_, hlast, hstate.imp_right .inl⟩

/-- What follows a failure is lawful: the failure is counted and given as the reason. -/
theorem Lawful.aftermath (lawful : Lawful policy h) {reason : Failure} (hpolicy : l.policy = policy)
    (hrow : failuresInARow h = l.failures.toNat + 1) (hfew : failuresInARow h < 4294967295)
    (hreason : lastFailure? h = some reason)
    (hretrying : l.failures = 0 ∨ policy.shouldRetry l.failures = true)
    (hshown : (publications h).getLast? = some (.connecting (l.failures + 1)) ∨
      l.failures = 0 ∧ (publications h).getLast? = some (.connected l.generation))
    (hafter : Aftermath s l reason deeds l') : Lawful policy (h ++ deeds) := by
  subst hpolicy
  have hcount : countFailure l.failures = l.failures + 1 := countFailure_eq (by omega)
  have hsucc : (l.failures + 1).toNat = l.failures.toNat + 1 := toNat_succ (by omega)
  have hnew : (l.failures + 1).toNat = failuresInARow h := hsucc.trans hrow.symm
  cases hafter with
  | rest n hn hretry hlive =>
    obtain rfl : n = l.failures + 1 := hn.trans hcount
    obtain ⟨last, hlast, hfollow⟩ := exists_mayFollow_of_failure hshown (.inl ⟨_, _, rfl⟩)
    refine lawful.append_one hlast rfl hfollow ?_
    simp only [throughout_cons, throughout_nil, and_true]
    exact ⟨trivial, accounts_backoff hnew hretry hreason, trivial⟩
  | stop n hn hretry hcancelled =>
    obtain rfl : n = l.failures + 1 := hn.trans hcount
    obtain ⟨last, hlast, hfollow⟩ := exists_mayFollow_of_failure hshown (.inl ⟨_, _, rfl⟩)
    refine lawful.append hlast (List.isChain_cons_cons.mpr ⟨hfollow, ?_⟩) ?_
    · exact List.isChain_cons_cons.mpr ⟨.inr rfl, List.isChain_singleton _⟩
    · simp only [throughout_cons, throughout_nil, and_true]
      exact ⟨trivial, accounts_backoff hnew hretry hreason, trivial⟩
  | giveUp n hn hretry =>
    obtain rfl : n = l.failures + 1 := hn.trans hcount
    obtain ⟨last, hlast, hfollow⟩ := exists_mayFollow_of_failure hshown (.inr rfl)
    refine lawful.append_one hlast rfl hfollow ?_
    simp only [throughout_cons, throughout_nil, and_true]
    refine ⟨trivial, ?_, eq_max_of_not_shouldRetry hsucc hretrying hretry⟩
    rw [failuresInARow_append]
    exact hnew

theorem Lawful.passage (lawful : Lawful policy h) (ledger : Ledger policy h l)
    (few : FewFailures (h ++ deeds)) (passage : Passage s l deeds l') :
    Lawful policy (h ++ deeds) := by
  have hshown := ledger.shown
  cases passage with
  | attempt hwait hlive =>
    refine lawful.attempt ledger few hwait rfl (List.isChain_singleton _) ?_
    simp only [throughout_cons, throughout_nil, and_true]
    exact ⟨trivial, trivial⟩
  | attemptStopped hwait hcancelled =>
    refine lawful.attempt ledger few hwait rfl ?_ ?_
    · exact List.isChain_cons_cons.mpr ⟨.inr (.inr (.inr rfl)), List.isChain_singleton _⟩
    · simp only [throughout_cons, throughout_nil, and_true]
      exact ⟨trivial, trivial⟩
  | stop hwait hcancelled =>
    have haccounted : Throughout (fun before => Accounts policy (h ++ before))
        [.did (.published .closed)] := throughout_cons.mpr ⟨trivial, throughout_nil _⟩
    rcases hwait with hwait | hwait <;> rw [Shows, hwait] at hshown
    · exact lawful.append_one hshown rfl (.inr (.inr (.inr rfl))) haccounted
    · obtain ⟨delay, reason, hlast⟩ := hshown
      exact lawful.append_one hlast rfl (.inr rfl) haccounted
  | @refuse reason after _ hwait hafter =>
    rw [Shows, hwait] at hshown
    have hrunning : l.isRunning = true := by rw [isRunning, hwait]
    have hquiet : publications [(.failure reason : Record T)] = [] := rfl
    rw [List.append_cons]
    refine (lawful.append_quiet hquiet).aftermath ledger.policy_eq ?_ (few _ ⟨after, by simp⟩)
      (lastFailure?_failure h reason) (ledger.retrying hrunning) ?_ hafter
    · rw [failuresInARow_failure, ledger.row_eq hrunning (by rw [owed?, hwait])]
    · exact .inl ((getLast?_publications_append rfl).trans hshown)
  | establish hwait =>
    rw [Shows, hwait] at hshown
    refine lawful.append_one hshown rfl (.inl ⟨_, rfl⟩) ?_
    simp only [throughout_cons, throughout_nil, and_true]
    exact ⟨trivial, trivial, trivial⟩
  | @releaseStopped c hwait =>
    have haccounted : Throughout (fun before => Accounts policy (h ++ before))
        [.did (.released c), .did (.published .closed)] :=
      throughout_cons.mpr ⟨trivial, throughout_cons.mpr ⟨trivial, throughout_nil _⟩⟩
    rw [Shows, hwait] at hshown
    rcases hshown with hlast | ⟨_, hlast⟩
    · exact lawful.append_one hlast rfl (.inr (.inr (.inr rfl))) haccounted
    · exact lawful.append_one hlast rfl (.inr (.inr rfl)) haccounted
  | @releaseFailed c reason after _ hwait hafter =>
    rw [Shows, hwait] at hshown
    have hquiet : publications [(.did (.released c) : Record T)] = [] := rfl
    rw [List.append_cons]
    have hrunning : l.isRunning = true := by rw [isRunning, hwait]
    refine (lawful.append_quiet hquiet).aftermath ledger.policy_eq ?_ (few _ ⟨after, by simp⟩)
      ?_ (ledger.retrying hrunning) ?_ hafter
    · rw [failuresInARow_append]
      exact ledger.row_eq_of_owed hwait
    · rw [lastFailure?_append]
      have howed := ledger.owed
      rw [owed?, hwait] at howed
      exact howed.resolve_left (Option.some_ne_none reason)
    · rw [getLast?_publications_append rfl]
      exact hshown
  | stay | replay | obtainStopped | replayStopped | replayRejected | withdraw | orphan | lose
  | reject | apply | accept | crash => exact lawful.append_quiet rfl

/-- **Lifecycle grammar and attempt accounting.** Whatever a loop sees and however its calls are
answered, as long as fewer than `2 ^ 32 - 1` failures follow each other: it publishes its states in
the lawful order, each says exactly what happened before it, and the channels are numbered from one
without a gap. -/
theorem Course.lawful (course : Course policy h l) (few : FewFailures h) :
    Lawful policy h ∧ generations (publications h) = List.range' 1 l.generation := by
  refine ⟨?_, (Course.ledger course few).generations_eq⟩
  induction course with
  | start => exact ⟨fun _ hstate => (by cases hstate), .nil, throughout_nil _⟩
  | step before last ih =>
    obtain ⟨s, hstep⟩ := last
    have few' := few.of_append
    exact (ih few').passage (Course.ledger before few') few hstep.passage

/-- A channel is established and its session ends, and then no other channel is to be had: the
count starts again after the loop was connected, and two attempts are used up. -/
theorem lawful_of_lost_and_refused :
    ∃ (h : List (Record Nat)) (l : Loop Nat), Course ⟨.ofMillis 5, some 2⟩ h l ∧ FewFailures h ∧
      publications h = [.connecting 1, .connected 1,
        .backoff 1 (.ofMillis 5) "Interest channel completed unexpectedly", .connecting 2,
        .exhausted 2] ∧
      Lawful ⟨.ofMillis 5, some 2⟩ h ∧ generations (publications h) = List.range' 1 1 := by
  let calm : Sight Nat := { operand := ⟨7, 0⟩ }
  let dead : Sight Nat := { operand := ⟨7, 0⟩, ended := some .completed }
  have spawned : Course ⟨.ofMillis 5, some 2⟩ ([] : List (Record Nat)) _ := .start
  have connected := ((spawned.look calm rfl).hear calm (.created ⟨0, none⟩)).hear calm .applied
  have course := (((connected.look dead rfl).hear calm .released).hear calm .elapsed).hear calm
    (.refused .shutDown)
  refine ⟨_, _, course, ?few, rfl, Course.lawful course ?few⟩
  exact fewFailures_of_length_lt (Nat.le_of_ble_eq_true rfl)

end InterestMux.Loop
