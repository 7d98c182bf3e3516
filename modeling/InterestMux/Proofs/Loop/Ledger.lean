import InterestMux.Proofs.Loop.Course
import Mathlib.Data.List.Range

/-!
# What the loop keeps count of

The loop carries a number of failures and a number of channels from step to step. Here both are
compared with the history: the failures that it has learned of since it was connected last, and
the channels that it reported as connected. A failure of an established channel is counted only
after the channel is released, so a loop that releases a failed channel owes one.

The unsigned count cannot pass `2 ^ 32 - 1`, so the comparison is made for histories in which
fewer failures follow each other.

## Main definitions

* `Loop.publications`, `Loop.failuresInARow`, `Loop.lastFailure?` : what a history tells.
* `Loop.FewFailures` : the histories whose failures can be counted.
* `Loop.Ledger` : the loop agrees with its history.

## Main results

* `Loop.Ledger.passage` : a passage keeps the agreement.
* `Loop.Course.ledger` : every loop agrees with its history.
-/

namespace InterestMux.Loop

variable {T : Type}

/-! ### Histories -/

/-- The state that an entry publishes, if any. -/
def Record.publication? : Record T → Option ConnectionState
  | .did (.published state) => some state
  | _ => none

/-- The failure that an entry tells of, if any. -/
def Record.failure? : Record T → Option Failure
  | .failure reason => some reason
  | .did _ => none

/-- The failures in a row after an entry, given those before it. Being connected ends the row. -/
def Record.tally (n : Nat) : Record T → Nat
  | .failure _ => n + 1
  | .did (.published state) => if state.isConnected then 0 else n
  | .did _ => n

/-- The states published in a history, oldest first. -/
def publications (h : List (Record T)) : List ConnectionState :=
  h.filterMap Record.publication?

/-- The failures in a history since the loop was connected last. -/
def failuresInARow (h : List (Record T)) : Nat :=
  h.foldl Record.tally 0

/-- The latest failure in a history. -/
def lastFailure? (h : List (Record T)) : Option Failure :=
  (h.filterMap Record.failure?).getLast?

/-- The generations among published states. -/
def generations (states : List ConnectionState) : List Nat :=
  states.filterMap fun
    | .connected generation => some generation
    | _ => none

/-- At no time in a history have `2 ^ 32 - 1` failures followed each other. -/
def FewFailures (h : List (Record T)) : Prop :=
  ∀ before, before <+: h → failuresInARow before < 4294967295

theorem FewFailures.of_append {h deeds : List (Record T)} (few : FewFailures (h ++ deeds)) :
    FewFailures h :=
  fun before hbefore => few before (hbefore.trans (List.prefix_append h deeds))

theorem foldl_tally_le (h : List (Record T)) (n : Nat) : h.foldl Record.tally n ≤ n + h.length := by
  induction h generalizing n with
  | nil => exact Nat.le_refl n
  | cons entry h ih =>
    have hentry : entry.tally n ≤ n + 1 := by
      cases entry with
      | failure reason => exact Nat.le_refl _
      | did e =>
        cases e <;> simp only [Record.tally] <;> first | exact Nat.le_succ n | split <;> omega
    calc (entry :: h).foldl Record.tally n ≤ entry.tally n + h.length := ih _
      _ ≤ n + (entry :: h).length := by rw [List.length_cons]; omega

theorem fewFailures_of_length_lt {h : List (Record T)} (hlength : h.length < 4294967295) :
    FewFailures h := by
  intro before hbefore
  have hle : failuresInARow before ≤ 0 + before.length := foldl_tally_le before 0
  have := hbefore.length_le
  omega

theorem publications_append (h deeds : List (Record T)) :
    publications (h ++ deeds) = publications h ++ publications deeds :=
  List.filterMap_append

theorem getLast?_publications_append {h deeds : List (Record T)}
    (hdeeds : publications deeds = []) :
    (publications (h ++ deeds)).getLast? = (publications h).getLast? := by
  rw [publications_append, hdeeds, List.append_nil]

theorem getLast?_publications_published {h deeds : List (Record T)} {state : ConnectionState}
    (hdeeds : publications deeds = [state]) :
    (publications (h ++ deeds)).getLast? = some state := by
  rw [publications_append, hdeeds, List.getLast?_concat]

theorem failuresInARow_append (h deeds : List (Record T)) :
    failuresInARow (h ++ deeds) = deeds.foldl Record.tally (failuresInARow h) :=
  List.foldl_append

theorem failuresInARow_failure (h : List (Record T)) (reason : Failure) :
    failuresInARow (h ++ [.failure reason]) = failuresInARow h + 1 :=
  failuresInARow_append h [.failure reason]

theorem lastFailure?_failure (h : List (Record T)) (reason : Failure) :
    lastFailure? (h ++ [.failure reason]) = some reason := by
  simp [lastFailure?, Record.failure?]

theorem generations_append (states later : List ConnectionState) :
    generations (states ++ later) = generations states ++ generations later :=
  List.filterMap_append

theorem generations_publications_append {h deeds : List (Record T)}
    (hdeeds : generations (publications deeds) = []) :
    generations (publications (h ++ deeds)) = generations (publications h) := by
  rw [publications_append, generations_append, hdeeds, List.append_nil]

theorem lastFailure?_append (h deeds : List (Record T)) :
    lastFailure? (h ++ deeds) = (lastFailure? deeds).or (lastFailure? h) := by
  simp [lastFailure?, List.getLast?_append]

/-! ### The agreement -/

/-- The failure of the channel that the loop is releasing. It is not counted yet. -/
def owed? (l : Loop T) : Option Failure :=
  match l.wait with
  | .releasing _ (.failed reason) => some reason
  | _ => none

/-- What a loop may have published last, if anything. -/
def Shows (l : Loop T) (last : Option ConnectionState) : Prop :=
  match l.wait with
  | .spawned => l.failures = 0 ∧ last = none
  | .creating | .replaying _ _ => last = some (.connecting (l.failures + 1))
  | .serving _ | .applying _ _ => l.failures = 0 ∧ last = some (.connected l.generation)
  | .releasing _ _ =>
    last = some (.connecting (l.failures + 1)) ∨
      l.failures = 0 ∧ last = some (.connected l.generation)
  | .resting => ∃ delay reason, last = some (.backoff l.failures delay reason)
  | .finished | .crashed => True

/-- The loop agrees with its history. -/
structure Ledger (policy : RetryPolicy) (h : List (Record T)) (l : Loop T) : Prop where
  policy_eq : l.policy = policy
  /-- The channels established so far are those reported as connected. -/
  generations_eq : generations (publications h) = List.range' 1 l.generation
  /-- Every failure is counted, or else owed. -/
  counted : l.isRunning = true →
    failuresInARow h = l.failures.toNat + if l.owed?.isSome then 1 else 0
  /-- The failure that is owed is the latest. -/
  owed : l.owed? = none ∨ lastFailure? h = l.owed?
  /-- So many failures do not end the attempts. -/
  retrying : l.isRunning = true → l.failures = 0 ∨ policy.shouldRetry l.failures = true
  shown : l.Shows (publications h).getLast?

/-- A count that has not come to its greatest value grows by one. -/
theorem toNat_succ {n : UInt32} (hn : n.toNat < 4294967295) : (n + 1).toNat = n.toNat + 1 := by
  rw [UInt32.toNat_add, Nat.mod_eq_of_lt]
  · rfl
  · exact Nat.succ_lt_succ hn

theorem countFailure_eq {n : UInt32} (hn : n.toNat < 4294967295) : countFailure n = n + 1 := by
  refine if_neg ?_
  rintro rfl
  exact absurd hn (by decide)

variable {policy : RetryPolicy} {h deeds : List (Record T)} {s : Sight T} {l l' : Loop T}

/-- A loop that is over, or has broken down, only has to agree about the past. -/
theorem Ledger.of_not_running (hpolicy : l.policy = policy) (hrunning : l.isRunning = false)
    (hgenerations : generations (publications h) = List.range' 1 l.generation) :
    Ledger policy h l where
  policy_eq := hpolicy
  generations_eq := hgenerations
  counted := fun hr => by simp [hrunning] at hr
  owed := .inl (by cases hwait : l.wait <;> simp [isRunning, owed?, hwait] at hrunning ⊢)
  retrying := fun hr => by simp [hrunning] at hr
  shown := by cases hwait : l.wait <;> simp [isRunning, Shows, hwait] at hrunning ⊢

/-- After a failure that was owed or has just happened, the loop counts it. -/
theorem Ledger.aftermath {reason : Failure} (hpolicy : l.policy = policy)
    (hgenerations : generations (publications h) = List.range' 1 l.generation)
    (hrow : failuresInARow h = l.failures.toNat + 1) (hfew : failuresInARow h < 4294967295)
    (hafter : Aftermath s l reason deeds l') : Ledger policy (h ++ deeds) l' := by
  have hcount : (countFailure l.failures).toNat = l.failures.toNat + 1 :=
    (congrArg UInt32.toNat (countFailure_eq (by omega))).trans (toNat_succ (by omega))
  cases hafter with
  | rest n hn hretry hlive =>
    subst hn
    constructor
    case policy_eq => exact hpolicy
    case generations_eq => rw [generations_publications_append rfl, hgenerations]
    case counted =>
      intro _
      rw [failuresInARow_append]
      exact hrow.trans hcount.symm
    case owed => exact .inl rfl
    case retrying => exact fun _ => .inr (hpolicy ▸ hretry)
    case shown => exact ⟨_, _, getLast?_publications_published rfl⟩
  | stop n hn hretry hcancelled =>
    exact .of_not_running hpolicy rfl ((generations_publications_append rfl).trans hgenerations)
  | giveUp n hn hretry =>
    exact .of_not_running hpolicy rfl ((generations_publications_append rfl).trans hgenerations)

theorem Ledger.row_eq (ledger : Ledger policy h l) (hrunning : l.isRunning = true)
    (howed : l.owed? = none) : failuresInARow h = l.failures.toNat := by
  simpa [howed] using ledger.counted hrunning

theorem Ledger.row_eq_of_owed (ledger : Ledger policy h l) {c : Channel} {reason : Failure}
    (hwait : l.wait = .releasing c (.failed reason)) :
    failuresInARow h = l.failures.toNat + 1 := by
  simpa [owed?, hwait] using ledger.counted (by rw [isRunning, hwait])

theorem Ledger.established (ledger : Ledger policy h l) {c : Channel}
    (hwait : l.wait = .serving c ∨ ∃ x, l.wait = .applying c x) :
    l.failures = 0 ∧ (publications h).getLast? = some (.connected l.generation) := by
  have hshown := ledger.shown
  rcases hwait with hwait | ⟨x, hwait⟩ <;> simpa [Shows, hwait] using hshown

theorem ledger_start (policy : RetryPolicy) : Ledger policy [] ({ policy } : Loop T) where
  policy_eq := rfl
  generations_eq := rfl
  counted := fun _ => rfl
  owed := .inl rfl
  retrying := fun _ => .inl rfl
  shown := ⟨rfl, rfl⟩

/-- A loop that owes nothing goes on to another point, without a failure or a new channel. -/
theorem Ledger.go_on (ledger : Ledger policy h l) (hrunning : l.isRunning = true)
    (howed : l.owed? = none) {seen : Nat} {wait : Wait T}
    (howed' : ({ l with seen, wait } : Loop T).owed? = none)
    (hgenerations : generations (publications deeds) = [])
    (hrow : failuresInARow (h ++ deeds) = failuresInARow h)
    (hshown : ({ l with seen, wait } : Loop T).Shows (publications (h ++ deeds)).getLast?) :
    Ledger policy (h ++ deeds) { l with seen, wait } where
  policy_eq := ledger.policy_eq
  generations_eq := (generations_publications_append hgenerations).trans ledger.generations_eq
  counted := fun _ => by rw [hrow, ledger.row_eq hrunning howed, howed']; rfl
  owed := .inl howed'
  retrying := fun _ => ledger.retrying hrunning
  shown := hshown

/-- A loop that has just got a channel, or holds one, starts to release it. -/
theorem Ledger.release (ledger : Ledger policy h l) {c : Channel} {verdict : Verdict} {seen : Nat}
    (hwait : l.wait = .creating ∨ l.channel? = some c) (hpublications : publications deeds = [])
    (hrow : failuresInARow (h ++ deeds) =
      failuresInARow h + if verdict = .stopped then 0 else 1)
    (hlast : verdict = .stopped ∨
      ∃ reason, verdict = .failed reason ∧ lastFailure? (h ++ deeds) = some reason) :
    Ledger policy (h ++ deeds) { l with seen, wait := .releasing c verdict } := by
  obtain ⟨hrunning, howed, hshown⟩ : l.isRunning = true ∧ l.owed? = none ∧
      ((publications h).getLast? = some (.connecting (l.failures + 1)) ∨
        l.failures = 0 ∧ (publications h).getLast? = some (.connected l.generation)) := by
    have hshown := ledger.shown
    cases hpoint : l.wait with
    | creating | replaying =>
      rw [Shows, hpoint] at hshown
      exact ⟨by rw [isRunning, hpoint], by rw [owed?, hpoint], .inl hshown⟩
    | serving | applying =>
      rw [Shows, hpoint] at hshown
      exact ⟨by rw [isRunning, hpoint], by rw [owed?, hpoint], .inr hshown⟩
    | spawned | releasing | resting | finished | crashed => simp [channel?, hpoint] at hwait
  constructor
  case policy_eq => exact ledger.policy_eq
  case generations_eq =>
    refine (generations_publications_append ?_).trans ledger.generations_eq
    rw [hpublications]
    rfl
  case counted =>
    intro _
    rw [hrow, ledger.row_eq hrunning howed]
    cases verdict <;> rfl
  case owed =>
    rcases hlast with rfl | ⟨reason, rfl, hlast⟩
    · exact .inl rfl
    · exact .inr hlast
  case retrying => exact fun _ => ledger.retrying hrunning
  case shown =>
    rw [publications_append, hpublications, List.append_nil]
    exact hshown

/-- **A passage keeps the agreement**, as long as the failures can be counted. -/
theorem Ledger.passage (ledger : Ledger policy h l) (few : FewFailures (h ++ deeds))
    (passage : Passage s l deeds l') : Ledger policy (h ++ deeds) l' := by
  have hgenerations := ledger.generations_eq
  have hpolicy := ledger.policy_eq
  -- A passage goes on, starts a release, follows a failure or ends the loop. Only `establish`
  -- begins a new row of failures.
  cases passage with
  | stay =>
    rw [List.append_nil]
    exact ledger
  | attempt hwait hlive =>
    have hrunning : l.isRunning = true := by
      rcases hwait with hwait | hwait <;> rw [isRunning, hwait]
    have howed : l.owed? = none := by
      rcases hwait with hwait | hwait <;> rw [owed?, hwait]
    exact ledger.go_on hrunning howed rfl rfl (failuresInARow_append _ _)
      (getLast?_publications_published rfl)
  | attemptStopped hwait hcancelled =>
    exact .of_not_running hpolicy rfl ((generations_publications_append rfl).trans hgenerations)
  | stop hwait hcancelled =>
    exact .of_not_running hpolicy rfl ((generations_publications_append rfl).trans hgenerations)
  | @refuse reason after _ hwait hafter =>
    have hrow : failuresInARow (h ++ [.failure reason]) = l.failures.toNat + 1 := by
      rw [failuresInARow_failure, ledger.row_eq (by rw [isRunning, hwait]) (by rw [owed?, hwait])]
    have hfew : failuresInARow (h ++ [.failure reason]) < 4294967295 :=
      few _ ⟨after, by simp⟩
    rw [List.append_cons]
    refine .aftermath hpolicy ?_ hrow hfew hafter
    exact (generations_publications_append rfl).trans hgenerations
  | replay c hwait hlive =>
    have hshown := ledger.shown
    rw [Shows, hwait] at hshown
    exact ledger.go_on (by rw [isRunning, hwait]) (by rw [owed?, hwait]) rfl rfl
      (failuresInARow_append _ _) ((getLast?_publications_append rfl).trans hshown)
  | obtainStopped c hwait hcancelled =>
    exact ledger.release (.inl hwait) rfl (failuresInARow_append _ _) (.inl rfl)
  | replayStopped hwait hcancelled =>
    exact ledger.release (.inr (by rw [channel?, hwait])) rfl (failuresInARow_append _ _) (.inl rfl)
  | replayRejected reason hwait =>
    exact ledger.release (.inr (by rw [channel?, hwait])) rfl (failuresInARow_append _ _)
      (.inr ⟨reason, rfl, lastFailure?_append h _⟩)
  | establish hwait =>
    constructor
    case policy_eq => exact hpolicy
    case generations_eq =>
      rw [publications_append, generations_append, hgenerations, List.range'_1_concat,
        Nat.add_comm 1]
      rfl
    case counted =>
      intro _
      rw [failuresInARow_append]
      rfl
    case owed => exact .inl rfl
    case retrying => exact fun _ => .inl rfl
    case shown => exact ⟨rfl, getLast?_publications_published rfl⟩
  | withdraw hwait hcancelled =>
    exact ledger.release (.inr (channel?_of_established hwait)) rfl (failuresInARow_append _ _)
      (.inl rfl)
  | orphan hwait hlive hsession hseen hsupplied =>
    exact ledger.release (.inr (by rw [channel?, hwait])) rfl (failuresInARow_append _ _) (.inl rfl)
  | lose ending hwait hlive hsession =>
    exact ledger.release (.inr (channel?_of_established hwait)) rfl (failuresInARow_append _ _)
      (.inr ⟨ending.reason, rfl, lastFailure?_append h _⟩)
  | reject reason hwait =>
    exact ledger.release (.inr (by rw [channel?, hwait])) rfl (failuresInARow_append _ _)
      (.inr ⟨reason, rfl, lastFailure?_append h _⟩)
  | apply hwait hlive hsession hseen =>
    obtain ⟨hfailures, hlast⟩ := ledger.established (.inl hwait)
    exact ledger.go_on (by rw [isRunning, hwait]) (by rw [owed?, hwait]) rfl rfl
      (failuresInARow_append _ _) ⟨hfailures, (getLast?_publications_append rfl).trans hlast⟩
  | @accept c x hwait =>
    obtain ⟨hfailures, hlast⟩ := ledger.established (.inr ⟨x, hwait⟩)
    exact ledger.go_on (by rw [isRunning, hwait]) (by rw [owed?, hwait]) rfl rfl
      (failuresInARow_append _ _) ⟨hfailures, (getLast?_publications_append rfl).trans hlast⟩
  | releaseStopped hwait =>
    exact .of_not_running hpolicy rfl ((generations_publications_append rfl).trans hgenerations)
  | @releaseFailed c reason after _ hwait hafter =>
    have hrow : failuresInARow (h ++ [.did (.released c)]) = l.failures.toNat + 1 := by
      rw [failuresInARow_append]
      exact ledger.row_eq_of_owed hwait
    have hfew : failuresInARow (h ++ [.did (.released c)]) < 4294967295 :=
      few _ ⟨after, by simp⟩
    rw [List.append_cons]
    refine .aftermath hpolicy ?_ hrow hfew hafter
    exact (generations_publications_append rfl).trans hgenerations
  | crash hcalling =>
    rw [List.append_nil]
    exact .of_not_running hpolicy rfl hgenerations

/-- **Every loop agrees with its history**, as long as the failures can be counted. -/
theorem Course.ledger (course : Course policy h l) (few : FewFailures h) : Ledger policy h l := by
  induction course with
  | start => exact ledger_start policy
  | step _ last ih =>
    obtain ⟨s, hstep⟩ := last
    exact (ih few.of_append).passage few hstep.passage

end InterestMux.Loop
