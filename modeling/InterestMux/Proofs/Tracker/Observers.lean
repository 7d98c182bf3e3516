import InterestMux.Proofs.Course
import InterestMux.Proofs.Tracker.Refinement
import InterestMux.Rehearsal.TrackerRun
import Mathlib.Data.List.Chain

/-!
# What observers of a tracker learn

Callers add and remove registrations, and observers come and look at the union, in any order. The
tracker publishes exactly when the union of the live registrations changes, so the version of its
publication tells whether anything has changed since an observer looked: an observer remembers the
version that it saw, and sees the union as it is now, whatever it was in between.

## Main definitions

* `Interest.unionOf` : the normalized union of a multiset.
* `TrackerRun.after`, `TrackerRun.unionAfter` : the run after steps, and the union of the
  registrations that the steps leave.
* `TrackerRun.Changes`, `TrackerRun.Attends` : a step changes this union; a step creates an
  observer, or the observer looks.
* `TrackerRun.publications` : what is published, oldest first.

## Main results

* `TrackerRun.published_concat` : a step publishes if it changes the union.
* `TrackerRun.version_eq_iff` : the version stays if no step changes the union.
* `TrackerRun.seen_of_attends` : what an observer remembers is the version of its last look.
* `TrackerRun.informs` : observers learn of all changes of the union, and of nothing else.
-/

namespace InterestMux

/-- The normalized union of a multiset of interests. -/
def Interest.unionOf (m : Multiset Interest) : Interest :=
  Quot.liftOn m unionAll fun _ _ hperm => unionAll_eq_of_mem_iff fun _ => hperm.mem_iff

theorem Tracker.published_publish (t : Tracker) :
    t.publish.published =
      if t.publish.union = t.union then t.published else t.published.publish t.publish.union := by
  have hunion : t.publish.union = t.tally.union := publish_value t
  rw [hunion, publish, union]
  by_cases h : t.published.value = t.tally.union
  · rw [if_pos h, if_pos h.symm]
  · rw [if_neg h, if_neg (Ne.symm h)]

theorem Tracker.published_call (t : Tracker) (c : Call) :
    (t.call c).1.published =
      if (t.call c).1.union = t.union then t.published
      else t.published.publish (t.call c).1.union := by
  cases c with
  | append i => exact published_publish { t with tally := t.tally.increase i }
  | remove i =>
    rw [call, remove?]
    cases t.tally.decrease? i with
    | none => exact (if_pos rfl).symm
    | some tally => exact published_publish { t with tally }

theorem Tracker.published_append (t : Tracker) (i : Interest) :
    (t.append i).published = if (t.append i).union = t.union then t.published
      else t.published.publish (t.append i).union :=
  published_call t (.append i)

theorem Tracker.published_remove (t : Tracker) (i : Interest) :
    (t.remove i).published = if (t.remove i).union = t.union then t.published
      else t.published.publish (t.remove i).union := by
  have hcall := published_call t (.remove i)
  have hremove : (t.call (.remove i)).1 = t.remove i := by
    rw [call, remove]
    cases t.remove? i <;> rfl
  rwa [hremove] at hcall

namespace TrackerRun

/-- A run after steps of the callers, oldest first. -/
def after (steps : List Step) : TrackerRun :=
  steps.foldl (fun r step => (r.perform step).2) {}

/-- What a step does with the registrations, if anything. -/
def Step.call? : Step → Option Tracker.Call
  | append i => some (.append i)
  | remove i => some (.remove i)
  | count _ | observe | look _ => none

/-- The normalized union of the registrations that steps leave. -/
def unionAfter (steps : List Step) : Interest :=
  .unionOf (Tracker.live (steps.filterMap Step.call?))

/-- A step changes the union of the live registrations. -/
def Changes (before : List Step) (step : Step) : Prop :=
  unionAfter (before ++ [step]) ≠ unionAfter before

instance (before : List Step) (step : Step) : Decidable (Changes before step) :=
  inferInstanceAs (Decidable (_ ≠ _))

/-- A step creates the observer, or the observer looks. -/
def Attends (k : Nat) (before : List Step) : Step → Prop
  | .observe => (after before).observers.length = k
  | .look j => j = k ∧ k < (after before).observers.length
  | .append _ | .remove _ | .count _ => False

/-- What a step publishes, if anything. -/
def publication? (before : List Step) (step : Step) : Option Interest :=
  Tracker.announced? (after before).tracker (after (before ++ [step])).tracker

/-- What the steps of a run publish, oldest first. -/
def publicationsFrom (before : List Step) : List Step → List Interest
  | [] => []
  | step :: steps =>
    (publication? before step).toList ++ publicationsFrom (before ++ [step]) steps

/-- All that is published, oldest first. -/
def publications (steps : List Step) : List Interest :=
  publicationsFrom [] steps

/-! ### The union in view -/

theorem after_concat (steps : List Step) (step : Step) :
    after (steps ++ [step]) = ((after steps).perform step).2 := by
  rw [after, List.foldl_append]
  rfl

theorem tracker_concat (steps : List Step) (step : Step) :
    (after (steps ++ [step])).tracker =
      (step.call?.map fun c => ((after steps).tracker.call c).1).getD (after steps).tracker := by
  rw [after_concat]
  cases step with
  | append i => rfl
  | remove i =>
    simp only [perform, Step.call?, Option.map_some, Option.getD_some, Tracker.remove, Tracker.call]
    cases (after steps).tracker.remove? i <;> rfl
  | count i | observe => rfl
  | look k =>
    rw [perform]
    cases (after steps).observers[k]? <;> rfl

theorem tracker_after (steps : List Step) :
    (after steps).tracker = Tracker.after (steps.filterMap Step.call?) := by
  induction steps using List.reverseRecOn with
  | nil => rfl
  | append_singleton steps step ih =>
    rw [tracker_concat, ih, List.filterMap_append]
    cases hcall : step.call? with
    | none => simp [hcall]
    | some c => simp [hcall, Tracker.after]

/-- **The union in view is the union of the live registrations.** -/
theorem union_after (steps : List Step) : (after steps).tracker.union = unionAfter steps := by
  obtain ⟨xs, hholds, hxs⟩ := Tracker.holds_after (steps.filterMap Step.call?)
  rw [tracker_after, unionAfter, ← hxs]
  exact hholds.union_eq

/-! ### Publications -/

/-- **A step publishes if it changes the union**, and then it publishes the new one. -/
theorem published_concat (steps : List Step) (step : Step) :
    (after (steps ++ [step])).tracker.published =
      if Changes steps step then
        (after steps).tracker.published.publish (unionAfter (steps ++ [step]))
      else (after steps).tracker.published := by
  have hpublished : (after (steps ++ [step])).tracker.published =
      if unionAfter (steps ++ [step]) = unionAfter steps then (after steps).tracker.published
      else (after steps).tracker.published.publish (unionAfter (steps ++ [step])) := by
    rw [← union_after, ← union_after, tracker_concat]
    cases step.call? with
    | none => exact (if_pos rfl).symm
    | some c => exact Tracker.published_call _ c
  by_cases hchanges : Changes steps step
  · rw [if_pos hchanges, hpublished, if_neg hchanges]
  · rw [if_neg hchanges, hpublished, if_pos (not_not.mp hchanges)]

theorem publication?_eq (steps : List Step) (step : Step) :
    publication? steps step =
      if Changes steps step then some (unionAfter (steps ++ [step])) else none := by
  rw [publication?, Tracker.announced?, published_concat, union_after]
  split
  · rw [if_neg (by simp)]
  · rw [if_pos rfl]

/-- **The version stays if no step changes the union**, and grows otherwise. -/
theorem version_eq_iff (steps later : List Step) :
    (after steps).tracker.published.version ≤
        (after (steps ++ later)).tracker.published.version ∧
      ((after (steps ++ later)).tracker.published.version =
          (after steps).tracker.published.version ↔
        Throughout (fun mid step => ¬ Changes (steps ++ mid) step) later) := by
  induction later using List.reverseRecOn with
  | nil => simp [throughout_nil]
  | append_singleton later step ih =>
    obtain ⟨hle, hsame⟩ := ih
    rw [← List.append_assoc, published_concat, throughout_concat, ← hsame]
    by_cases hchanges : Changes (steps ++ later) step
    · rw [if_pos hchanges, Watch.publish_version]
      refine ⟨Nat.le_succ_of_le hle, iff_of_false ?_ fun h => h.2 hchanges⟩
      omega
    · rw [if_neg hchanges]
      exact ⟨hle, (and_iff_left hchanges).symm⟩

theorem publicationsFrom_concat (before steps : List Step) (step : Step) :
    publicationsFrom before (steps ++ [step]) =
      publicationsFrom before steps ++ (publication? (before ++ steps) step).toList := by
  induction steps generalizing before with
  | nil => simp [publicationsFrom]
  | cons first steps ih => simp [publicationsFrom, ih]

/-- **What is published differs from what was in view before**, which was published last. -/
theorem publications_isChain (steps : List Step) :
    (.empty :: publications steps).IsChain (· ≠ ·) ∧
      (.empty :: publications steps).getLast? = some (unionAfter steps) := by
  induction steps using List.reverseRecOn with
  | nil => exact ⟨List.isChain_singleton _, rfl⟩
  | append_singleton steps step ih =>
    obtain ⟨hchain, hlast⟩ := ih
    rw [publications, publicationsFrom_concat, List.nil_append, ← publications, publication?_eq]
    by_cases hchanges : Changes steps step
    · rw [if_pos hchanges, Option.toList_some, ← List.cons_append]
      refine ⟨List.isChain_append.mpr ⟨hchain, List.isChain_singleton _, ?_⟩,
        List.getLast?_concat⟩
      intro last hlast' next hnext
      obtain rfl := Option.some.inj (hlast.symm.trans hlast')
      obtain rfl := Option.some.inj hnext
      exact Ne.symm hchanges
    · rw [if_neg hchanges, Option.toList_none, List.append_nil]
      exact ⟨hchain, hlast.trans (congrArg some (not_not.mp hchanges).symm)⟩

/-! ### Observers -/

/-- A step that has nothing to do with an observer leaves it what it saw. -/
theorem seen_concat {k seen : Nat} {steps : List Step} {step : Step}
    (hseen : (after steps).observers[k]? = some seen) (hattends : ¬ Attends k steps step) :
    (after (steps ++ [step])).observers[k]? = some seen := by
  obtain ⟨hk, -⟩ := List.getElem?_eq_some_iff.mp hseen
  rw [after_concat]
  cases step with
  | append i | remove i | count i => exact hseen
  | observe => exact (List.getElem?_append_left hk).trans hseen
  | look j =>
    have hjk : j ≠ k := fun h => hattends ⟨h, hk⟩
    rw [perform]
    cases (after steps).observers[j]? with
    | none => exact hseen
    | some _ => exact (List.getElem?_set_ne hjk).trans hseen

theorem seen_of_attends_last {k : Nat} {steps : List Step} {step : Step}
    (hattends : Attends k steps step) :
    (after (steps ++ [step])).observers[k]? =
      some (after (steps ++ [step])).tracker.published.version := by
  rw [after_concat]
  cases step with
  | append i | remove i | count i => exact hattends.elim
  | observe =>
    obtain rfl : (after steps).observers.length = k := hattends
    exact List.getElem?_concat_length
  | look j =>
    obtain ⟨rfl, hk⟩ := hattends
    simp [perform, hk]

/-- **What an observer remembers is the version of its last look**, or that of its creation. -/
theorem seen_of_attends {k : Nat} {steps : List Step} {step : Step}
    (hattends : Attends k steps step) (later : List Step)
    (hlast : Throughout (fun mid u => ¬ Attends k (steps ++ step :: mid) u) later) :
    (after (steps ++ step :: later)).observers[k]? =
      some (after (steps ++ [step])).tracker.published.version := by
  induction later using List.reverseRecOn with
  | nil => exact seen_of_attends_last hattends
  | append_singleton later u ih =>
    obtain ⟨hbefore, hu⟩ := throughout_concat.mp hlast
    rw [← List.cons_append, ← List.append_assoc]
    exact seen_concat (ih hbefore) hu

/-- An observer that is there was created, and has looked since then or not. -/
theorem exists_attends {k : Nat} {steps : List Step} (hk : k < (after steps).observers.length) :
    ∃ before step later, steps = before ++ step :: later ∧ Attends k before step ∧
      Throughout (fun mid u => ¬ Attends k (before ++ step :: mid) u) later := by
  induction steps using List.reverseRecOn with
  | nil => exact absurd hk (Nat.not_lt_zero k)
  | append_singleton steps u ih =>
    by_cases hattends : Attends k steps u
    · exact ⟨steps, u, [], rfl, hattends, throughout_nil _⟩
    · have hold : k < (after steps).observers.length := by
        rw [after_concat] at hk
        cases u with
        | append i | remove i | count i => exact hk
        | observe =>
          have hlt : k < (after steps).observers.length + 1 := by simpa [perform] using hk
          exact Nat.lt_of_le_of_ne (Nat.le_of_lt_succ hlt) (Ne.symm hattends)
        | look j =>
          rw [perform] at hk
          cases hj : (after steps).observers[j]? <;> simpa [hj] using hk
      obtain ⟨before, step, later, rfl, hstep, hlater⟩ := ih hold
      refine ⟨before, step, later ++ [u], by simp, hstep, ?_⟩
      exact throughout_concat.mpr ⟨hlater, hattends⟩

theorem look_eq {k seen : Nat} {steps : List Step}
    (hseen : (after steps).observers[k]? = some seen) :
    ((after steps).perform (.look k)).1 =
      .looked ((after steps).tracker.published.changedSince seen) (unionAfter steps) := by
  rw [perform, hseen, ← union_after]

/-- Observers learn of all changes of the union of the live registrations, and of nothing else. -/
structure Informs (steps : List Step) : Prop where
  /-- The union in view is that of the live registrations. -/
  current : (after steps).tracker.union = unionAfter steps
  /-- A step publishes exactly if it changes this union, and then it publishes the new one. -/
  published : ∀ step, publication? steps step =
    if Changes steps step then some (unionAfter (steps ++ [step])) else none
  /-- So no two publications in a row are the same, nor is the first one empty. -/
  distinct : (.empty :: publications steps).IsChain (· ≠ ·)
  /-- A new observer is told of nothing new, and of the union as it is. -/
  fresh : ((after (steps ++ [.observe])).perform (.look (after steps).observers.length)).1 =
    .looked false (unionAfter steps)
  /-- Any observer was created in some step, or looked in a later one and not since. It is told of
  something new exactly if a step after this one changed the union, and of the union as it is. -/
  looked : ∀ k < (after steps).observers.length, ∃ before step later,
    steps = before ++ step :: later ∧ Attends k before step ∧
      (∀ mid u rest, later = mid ++ u :: rest → ¬ Attends k (before ++ step :: mid) u) ∧
      ∃ new, ((after steps).perform (.look k)).1 = .looked new (unionAfter steps) ∧
        (new = true ↔ ∃ mid u rest, later = mid ++ u :: rest ∧ Changes (before ++ step :: mid) u)

/-- **Observers learn of all changes of the union, and of nothing else**, whoever registers what,
and whenever they were created or looked last. -/
theorem informs (steps : List Step) : Informs steps := by
  constructor
  case current => exact union_after steps
  case published => exact publication?_eq steps
  case distinct => exact (publications_isChain steps).1
  case fresh =>
    have hattends : Attends (after steps).observers.length steps .observe := rfl
    have hsame : unionAfter (steps ++ [.observe]) = unionAfter steps := by
      rw [← union_after, ← union_after, after_concat]
      rfl
    rw [look_eq (seen_of_attends_last hattends), hsame, Watch.changedSince, bne_self_eq_false]
  case looked =>
    intro k hk
    obtain ⟨before, step, later, rfl, hattends, hlast⟩ := exists_attends hk
    have hseen := seen_of_attends hattends later hlast
    refine ⟨before, step, later, rfl, hattends, hlast, _, look_eq hseen, ?_⟩
    obtain ⟨-, hsame⟩ := version_eq_iff (before ++ [step]) later
    rw [List.append_assoc, List.singleton_append] at hsame
    rw [Watch.changedSince, bne_iff_ne, Ne, hsame, not_throughout]
    simp only [List.append_assoc, List.singleton_append, not_not]

end TrackerRun

end InterestMux
