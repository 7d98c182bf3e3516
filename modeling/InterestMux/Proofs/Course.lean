/-!
# Courses

A course of a machine is a finite sequence of steps from a start state, kept as the list of
everything that the steps did and the state that they lead to. Each step relates a state, what it
does, and the next state; one step may do several things or nothing.

## Main definitions

* `Course` : what can have happened by the time that a state is reached.
* `Throughout` : every entry of a history is in keeping with what came before it.

## Main results

* `Course.append` : a course that goes on is a course.
* `Course.simulate` : if one machine follows another step by step, it follows the courses.
* `Course.split` : a course can be taken apart at any of its entries.
-/

namespace InterestMux

/-- A course from a start state: all that happened, oldest first, and the state reached. -/
inductive Course {σ ε : Type} (Step : σ → List ε → σ → Prop) (start : σ) : List ε → σ → Prop
  | start : Course Step start [] start
  | step {history : List ε} {s : σ} {deeds : List ε} {s' : σ} (before : Course Step start history s)
      (last : Step s deeds s') : Course Step start (history ++ deeds) s'

namespace Course

variable {σ τ ε δ γ : Type} {Step : σ → List ε → σ → Prop} {Step' : τ → List δ → τ → Prop}

theorem single {s s' : σ} {deeds : List ε} (h : Step s deeds s') : Course Step s deeds s' := by
  simpa using Course.step .start h

/-- **A course can be taken up where another one ended.** -/
theorem append {s t u : σ} {history later : List ε} (first : Course Step s history t)
    (second : Course Step t later u) : Course Step s (history ++ later) u := by
  induction second with
  | start => simpa using first
  | step _ last ih => simpa [List.append_assoc] using Course.step ih last

/-- **Steps that are followed make courses that are followed.** Let every step of a machine, seen
through `view`, be a course of another machine, with the same deeds as far as `left` and `right`
tell. Then so is every course of the machine. -/
theorem simulate {start s : σ} {history : List ε} (course : Course Step start history s)
    {view : σ → τ} {left : ε → Option γ} {right : δ → Option γ}
    (follow : ∀ s deeds s', Step s deeds s' →
      ∃ deeds', Course Step' (view s) deeds' (view s') ∧
        deeds'.filterMap right = deeds.filterMap left) :
    ∃ history', Course Step' (view start) history' (view s) ∧
      history'.filterMap right = history.filterMap left := by
  induction course with
  | start => exact ⟨[], .start, rfl⟩
  | step _ last ih =>
    obtain ⟨history', before, hbefore⟩ := ih
    obtain ⟨deeds', after, hafter⟩ := follow _ _ _ last
    refine ⟨history' ++ deeds', before.append after, ?_⟩
    rw [List.filterMap_append, List.filterMap_append, hbefore, hafter]

/-- **A course can be taken apart at any of its entries**, if each of its steps makes one entry. -/
theorem split {start s : σ} {before later : List ε} {entry : ε}
    (course : Course Step start (before ++ entry :: later) s)
    (hone : ∀ s deeds s', Step s deeds s' → ∃ e, deeds = [e]) :
    ∃ t u, Course Step start before t ∧ Step t [entry] u ∧ Course Step u later s := by
  generalize hhistory : before ++ entry :: later = history at course
  induction course generalizing later with
  | start => simp at hhistory
  | @step history t deeds s past last ih =>
    obtain ⟨e, rfl⟩ := hone t deeds s last
    rcases List.eq_nil_or_concat later with rfl | ⟨earlier, e', rfl⟩
    · obtain ⟨rfl, hlast⟩ := List.append_inj' hhistory rfl
      obtain rfl := List.singleton_inj.mp hlast
      exact ⟨t, s, past, last, .start⟩
    · rw [List.concat_eq_append] at hhistory ⊢
      rw [← List.cons_append, ← List.append_assoc] at hhistory
      obtain ⟨hpast, hlast⟩ := List.append_inj' hhistory rfl
      obtain rfl := List.singleton_inj.mp hlast
      obtain ⟨t', u, hbefore, hentry, hlater⟩ := ih hpast
      exact ⟨t', u, hbefore, hentry, .step hlater last⟩

end Course

/-! ### Histories -/

section Throughout

variable {ε : Type}

/-- Every entry of a history is in the relation to the entries before it. -/
def Throughout (P : List ε → ε → Prop) (history : List ε) : Prop :=
  ∀ before entry after, history = before ++ entry :: after → P before entry

theorem throughout_nil (P : List ε → ε → Prop) : Throughout P [] := by
  intro before entry after h
  exact absurd h.symm (List.append_ne_nil_of_right_ne_nil _ (List.cons_ne_nil _ _))

theorem throughout_cons {P : List ε → ε → Prop} {entry : ε} {later : List ε} :
    Throughout P (entry :: later) ↔
      P [] entry ∧ Throughout (fun before => P (entry :: before)) later := by
  constructor
  · intro h
    exact ⟨h [] entry later rfl, fun before x after hlater => h _ x after (by rw [hlater]; rfl)⟩
  · rintro ⟨hfirst, hrest⟩ before x after h
    cases before with
    | nil =>
      obtain ⟨rfl, rfl⟩ := List.cons.inj h
      exact hfirst
    | cons y before =>
      obtain ⟨rfl, rfl⟩ := List.cons.inj h
      exact hrest before x after rfl

theorem throughout_append {P : List ε → ε → Prop} {history later : List ε} :
    Throughout P (history ++ later) ↔
      Throughout P history ∧ Throughout (fun before => P (history ++ before)) later := by
  induction history generalizing P with
  | nil => simp [throughout_nil]
  | cons entry history ih => simp only [List.cons_append, throughout_cons, ih, and_assoc]

theorem throughout_concat {P : List ε → ε → Prop} {history : List ε} {entry : ε} :
    Throughout P (history ++ [entry]) ↔ Throughout P history ∧ P history entry := by
  rw [throughout_append, throughout_cons, List.append_nil]
  exact and_congr_right fun _ => and_iff_left (throughout_nil _)

theorem not_throughout {P : List ε → ε → Prop} {history : List ε} :
    ¬ Throughout P history ↔
      ∃ before entry after, history = before ++ entry :: after ∧ ¬ P before entry := by
  simp only [Throughout, Classical.not_forall, exists_prop]

end Throughout

end InterestMux
