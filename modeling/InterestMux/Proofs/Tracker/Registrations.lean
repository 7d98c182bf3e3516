import InterestMux.Proofs.Interest.Union
import InterestMux.Tracker

/-!
# Registrations

The tally of a tracker stands for a collection of registrations, in which an interest occurs as
often as it is counted. Adding and removing a registration does just that to the collection, and
what the tracker publishes is the normalized union of the collection, in any order.

## Main definitions

* `Tally.registrations` : the registrations that a tally stands for.
* `Tally.IsProper` : no interest is counted twice, and none is counted as zero.
* `Tracker.Holds` : the registrations of a tracker, in any order, and its publication is up to date.

## Main results

* `Tally.perm_increase`, `Tally.perm_decrease?` : what counting does to the registrations.
* `Tracker.Holds.append`, `Tracker.Holds.remove` : the same for trackers.
* `Tracker.Holds.union_eq` : the published union is the union of the registrations.
-/

namespace InterestMux

namespace Tally

/-- Each interest as often as it is counted. -/
def registrations (t : Tally) : List Interest :=
  t.flatMap fun entry => List.replicate entry.2 entry.1

/-- The interests are distinct and their counts are positive. -/
structure IsProper (t : Tally) : Prop where
  nodup : (t.map (·.1)).Nodup
  pos : ∀ entry ∈ t, 0 < entry.2

@[simp] theorem registrations_cons (entry : Interest × Nat) (t : Tally) :
    registrations (entry :: t) = List.replicate entry.2 entry.1 ++ registrations t := rfl

theorem isProper_nil : IsProper [] := ⟨.nil, fun _ h => absurd h List.not_mem_nil⟩

theorem IsProper.tail {entry : Interest × Nat} {t : Tally} (h : IsProper (entry :: t)) :
    IsProper t :=
  ⟨(List.nodup_cons.mp h.nodup).2, fun e he => h.pos e (List.mem_cons_of_mem entry he)⟩

theorem IsProper.mem_registrations {t : Tally} (h : IsProper t) {i : Interest} :
    i ∈ t.registrations ↔ i ∈ t.map (·.1) := by
  simp only [registrations, List.mem_flatMap, List.mem_replicate, List.mem_map]
  constructor
  · rintro ⟨entry, hentry, -, rfl⟩
    exact ⟨entry, hentry, rfl⟩
  · rintro ⟨entry, hentry, rfl⟩
    exact ⟨entry, hentry, Nat.ne_of_gt (h.pos entry hentry), rfl⟩

/-! ### Adding -/

theorem map_fst_increase (i : Interest) : ∀ t : Tally,
    (t.increase i).map (·.1) = t.map (·.1) ∨
      i ∉ t.map (·.1) ∧ (t.increase i).map (·.1) = t.map (·.1) ++ [i]
  | [] => .inr ⟨List.not_mem_nil, rfl⟩
  | (j, n) :: t => by
    rw [increase]
    by_cases h : j = i
    · exact .inl (by rw [if_pos h]; rfl)
    · rw [if_neg h]
      rcases map_fst_increase i t with heq | ⟨hnot, heq⟩
      · exact .inl (by simp only [List.map_cons, heq])
      · exact .inr ⟨by simp [Ne.symm h, List.mem_map.not.mp hnot], by
          simp only [List.map_cons, heq, List.cons_append]⟩

theorem perm_increase (i : Interest) : ∀ t : Tally,
    (t.increase i).registrations.Perm (i :: t.registrations)
  | [] => .refl _
  | (j, n) :: t => by
    rw [increase]
    by_cases h : j = i
    · subst h
      rw [if_pos rfl, registrations_cons, registrations_cons, List.replicate_succ, List.cons_append]
    · rw [if_neg h, registrations_cons, registrations_cons]
      exact ((perm_increase i t).append_left _).trans List.perm_middle

theorem pos_increase (i : Interest) : ∀ {t : Tally}, (∀ entry ∈ t, 0 < entry.2) →
    ∀ entry ∈ t.increase i, 0 < entry.2
  | [], _, _, hentry => by
    obtain rfl := List.mem_singleton.mp hentry
    exact Nat.one_pos
  | (j, n) :: t, hpos, entry, hentry => by
    rw [increase] at hentry
    split at hentry
    · rcases List.mem_cons.mp hentry with rfl | hentry
      · exact Nat.succ_pos n
      · exact hpos entry (List.mem_cons_of_mem _ hentry)
    · rcases List.mem_cons.mp hentry with rfl | hentry
      · exact hpos _ List.mem_cons_self
      · exact pos_increase i (fun e he => hpos e (List.mem_cons_of_mem _ he)) entry hentry

theorem IsProper.increase {t : Tally} (h : IsProper t) (i : Interest) :
    IsProper (t.increase i) where
  nodup := by
    rcases map_fst_increase i t with heq | ⟨hnot, heq⟩ <;> rw [heq]
    · exact h.nodup
    · simpa using h.nodup.concat hnot
  pos := pos_increase i h.pos

/-! ### Removing -/

theorem decrease?_cons (i j : Interest) (n : Nat) (t : Tally) :
    decrease? i ((j, n) :: t) =
      if j = i then some (if n ≤ 1 then t else (j, n - 1) :: t)
      else (decrease? i t).map ((j, n) :: ·) := rfl

theorem decrease?_eq_none {i : Interest} : ∀ {t : Tally},
    t.decrease? i = none ↔ i ∉ t.map (·.1)
  | [] => by simp [decrease?]
  | (j, n) :: t => by
    rw [decrease?_cons]
    by_cases h : j = i
    · simp [h]
    · rw [if_neg h, Option.map_eq_none_iff, decrease?_eq_none]
      simp [Ne.symm h]

theorem decrease?_increase (i : Interest) : ∀ {t : Tally}, (∀ entry ∈ t, 0 < entry.2) →
    (t.increase i).decrease? i = some t
  | [], _ => by simp [increase, decrease?]
  | (j, n) :: t, hpos => by
    have hn : ¬ n + 1 ≤ 1 := by
      have := hpos (j, n) List.mem_cons_self
      omega
    rw [increase]
    by_cases hji : j = i
    · rw [if_pos hji, decrease?_cons, if_pos hji, if_neg hn, Nat.add_sub_cancel]
    · rw [if_neg hji, decrease?_cons, if_neg hji,
        decrease?_increase i fun e he => hpos e (List.mem_cons_of_mem _ he)]
      rfl

theorem perm_decrease? {i : Interest} : ∀ {t t' : Tally}, (∀ entry ∈ t, 0 < entry.2) →
    t.decrease? i = some t' → t.registrations.Perm (i :: t'.registrations)
  | (j, n) :: t, t', hpos, h => by
    rw [decrease?_cons] at h
    split at h
    · rename_i hji
      subst hji
      have hn : 0 < n := hpos (j, n) List.mem_cons_self
      obtain ⟨m, rfl⟩ : ∃ m, n = m + 1 := ⟨n - 1, by omega⟩
      rw [registrations_cons, List.replicate_succ, List.cons_append]
      obtain rfl := Option.some.inj h
      split
      · obtain rfl : m = 0 := by omega
        exact .refl _
      · exact .refl _
    · obtain ⟨u, hu, rfl⟩ := Option.map_eq_some_iff.mp h
      have ih := perm_decrease? (fun e he => hpos e (List.mem_cons_of_mem _ he)) hu
      rw [registrations_cons, registrations_cons]
      exact (ih.append_left _).trans List.perm_middle

theorem IsProper.decrease? {i : Interest} : ∀ {t t' : Tally}, IsProper t →
    t.decrease? i = some t' → IsProper t' ∧ ∀ j ∈ t'.map (·.1), j ∈ t.map (·.1)
  | (j, n) :: t, t', hproper, h => by
    rw [decrease?_cons] at h
    have hhead := (List.nodup_cons.mp hproper.nodup).1
    split at h
    · obtain rfl := Option.some.inj h
      split
      · exact ⟨hproper.tail, fun k hk => List.mem_cons_of_mem _ hk⟩
      · refine ⟨⟨hproper.nodup, fun entry hentry => ?_⟩, fun k hk => hk⟩
        rcases List.mem_cons.mp hentry with rfl | hentry
        · exact Nat.sub_pos_of_lt (by omega)
        · exact hproper.tail.pos entry hentry
    · obtain ⟨u, hu, rfl⟩ := Option.map_eq_some_iff.mp h
      obtain ⟨hproper', hsub⟩ := hproper.tail.decrease? hu
      refine ⟨⟨List.nodup_cons.mpr ⟨fun hj => hhead (hsub _ hj), hproper'.nodup⟩, ?_⟩, ?_⟩
      · intro entry hentry
        rcases List.mem_cons.mp hentry with rfl | hentry
        · exact hproper.pos _ List.mem_cons_self
        · exact hproper'.pos entry hentry
      · intro k hk
        rcases List.mem_cons.mp hk with rfl | hk
        · exact List.mem_cons_self
        · exact List.mem_cons_of_mem _ (hsub k hk)

theorem IsProper.union_eq {t : Tally} (h : IsProper t) :
    t.union = Interest.unionAll t.registrations :=
  Interest.unionAll_eq_of_mem_iff fun _ => h.mem_registrations.symm

end Tally

namespace Tracker

/-- The tracker holds exactly these registrations, in some order, and has published their union. -/
structure Holds (t : Tracker) (xs : List Interest) : Prop where
  proper : t.tally.IsProper
  registrations : t.tally.registrations.Perm xs
  published : t.published.value = t.tally.union

theorem holds_empty : Holds {} [] := ⟨Tally.isProper_nil, .refl _, rfl⟩

/-- After a publication the published union is up to date, whether or not it is new. -/
theorem publish_value (t : Tracker) : t.publish.published.value = t.tally.union := by
  rw [publish]
  split
  · assumption
  · rfl

@[simp] theorem publish_tally (t : Tracker) : t.publish.tally = t.tally := by
  rw [publish]
  split <;> rfl

theorem holds_publish {t : Tracker} {xs : List Interest} (hproper : t.tally.IsProper)
    (hregistrations : t.tally.registrations.Perm xs) : Holds t.publish xs where
  proper := by rwa [publish_tally]
  registrations := by rwa [publish_tally]
  published := by rw [publish_value, publish_tally]

variable {t : Tracker} {xs ys : List Interest} {i : Interest}

theorem Holds.perm (h : Holds t xs) (hperm : xs.Perm ys) : Holds t ys :=
  { h with registrations := h.registrations.trans hperm }

theorem Holds.append (h : Holds t xs) (i : Interest) : Holds (t.append i) (i :: xs) :=
  holds_publish (h.proper.increase i)
    ((Tally.perm_increase i t.tally).trans (h.registrations.cons i))

theorem Holds.remove (h : Holds t (i :: xs)) : Holds (t.remove i) xs := by
  have hmem : i ∈ t.tally.map (·.1) :=
    h.proper.mem_registrations.mp (h.registrations.mem_iff.mpr List.mem_cons_self)
  cases hdecrease : t.tally.decrease? i with
  | none => exact absurd hmem (Tally.decrease?_eq_none.mp hdecrease)
  | some tally =>
    have hperm := Tally.perm_decrease? h.proper.pos hdecrease
    rw [Tracker.remove, remove?, hdecrease]
    refine holds_publish (h.proper.decrease? hdecrease).1 ?_
    exact (hperm.symm.trans h.registrations).cons_inv

theorem tally_remove_append (hproper : t.tally.IsProper) (i : Interest) :
    ((t.append i).remove i).tally = t.tally := by
  have hdecrease : (t.append i).tally.decrease? i = some t.tally := by
    rw [append, publish_tally]
    exact Tally.decrease?_increase i hproper.pos
  rw [remove, remove?, hdecrease]
  exact publish_tally _

/-- **The published union is the union of the registrations**, in whatever order they are listed. -/
theorem Holds.union_eq (h : Holds t xs) : t.union = Interest.unionAll xs := by
  rw [Tracker.union, h.published, h.proper.union_eq]
  exact Interest.unionAll_eq_of_mem_iff fun _ => h.registrations.mem_iff

end Tracker

end InterestMux
