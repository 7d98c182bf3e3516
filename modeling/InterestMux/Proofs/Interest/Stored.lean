import InterestMux.Interest.Stored
import InterestMux.Proofs.Interest.Canonical

/-!
# Stored interests are read back

The document of an interest reads back as that very interest, whatever unions it has. Documents say
more than one form of an interest, though: the members of a union may come in any order and more
than once. Such documents are restatements of one another, at whatever depth they differ, and read
alike.

## Main definitions

* `Interest.unionDocument` : the document of a union with the given members.
* `Interest.Restates` : documents that differ in the order and the repetitions of members.
* `Interest.Storage` : what holds of stored interests.

## Main results

* `Interest.ofDocument?_toDocument` : an interest is read back.
* `Interest.isSet_of_ofDocument?` : whatever is read is made of sets.
* `Interest.ofDocument?_unionDocument_congr` : a union is read off what its members read as.
* `Interest.storage` : the form of stored interests, and how they are read.
-/

namespace InterestMux.Interest

variable {x : Interest} {d d' : Document} {items items' : List Document}

/-! ### Writing and reading -/

theorem toDocuments_eq_map (xs : List Interest) : toDocuments xs = xs.map toDocument := by
  induction xs with
  | nil => rfl
  | cons x xs ih => rw [toDocuments, ih, List.map_cons]

/-- The document of a union with the given members. -/
def unionDocument (items : List Document) : Document :=
  .map [("union", .list items)]

theorem ofDocument?_unionDocument (items : List Document) :
    ofDocument? (unionDocument items) = (ofDocuments? items).map setOf := by
  rw [unionDocument, ofDocument?]

theorem sizeOf_lt_unionDocument {item : Document} (hitem : item ∈ items) :
    sizeOf item < sizeOf (unionDocument items) := by
  have hlt := List.sizeOf_lt_of_mem hitem
  simp only [unionDocument, Document.map.sizeOf_spec, Document.list.sizeOf_spec,
    List.cons.sizeOf_spec, Prod.mk.sizeOf_spec]
  omega

mutual

/-- **An interest is read back from its document.** -/
theorem ofDocument?_toDocument : ∀ {x : Interest}, x.IsSet → ofDocument? x.toDocument = some x
  | empty, _ | all, _ | application _, _ | vip _, _ | instanceId _, _ => by
    simp only [toDocument, ofDocument?]
  | union xs, hset => by
    obtain ⟨hascending, hmembers⟩ := Bool.and_eq_true_iff.mp hset
    have hsorted : sorted xs = xs := sorted_of_ascending ((ascending_iff xs).mp hascending)
    change ofDocument? (unionDocument (toDocuments xs)) = _
    rw [ofDocument?_unionDocument, ofDocuments?_toDocuments hmembers, Option.map_some, setOf,
      hsorted]

theorem ofDocuments?_toDocuments : ∀ {xs : List Interest},
    areSets xs = true → ofDocuments? (toDocuments xs) = some xs
  | [], _ => rfl
  | x :: xs, hsets => by
    obtain ⟨hx, hxs⟩ := Bool.and_eq_true_iff.mp hsets
    simp only [toDocuments, ofDocuments?, ofDocument?_toDocument hx, ofDocuments?_toDocuments hxs]

end

/-! ### What is read -/

theorem ofDocuments?_eq (items : List Document) :
    ofDocuments? items =
      if items.all fun item => (ofDocument? item).isSome then some (items.filterMap ofDocument?)
      else none := by
  induction items with
  | nil => rfl
  | cons item items ih =>
    rw [ofDocuments?, ih, List.all_cons]
    cases hitem : ofDocument? item with
    | none => rfl
    | some x =>
      rw [List.filterMap_cons_some hitem]
      cases items.all fun item => (ofDocument? item).isSome <;> rfl

/-- **A union is read off what its members read as**, however they are arranged. -/
theorem ofDocument?_unionDocument_congr
    (h : ∀ r, r ∈ items.map ofDocument? ↔ r ∈ items'.map ofDocument?) :
    ofDocument? (unionDocument items) = ofDocument? (unionDocument items') := by
  have hreadable (items : List Document) :
      (items.all fun item => (ofDocument? item).isSome) = true ↔ none ∉ items.map ofDocument? := by
    simp [Option.isSome_iff_ne_none]
  have hall : (items.all fun item => (ofDocument? item).isSome) =
      items'.all fun item => (ofDocument? item).isSome :=
    Bool.eq_iff_iff.mpr (by rw [hreadable, hreadable, h none])
  have hsorted : sorted (items.filterMap ofDocument?) = sorted (items'.filterMap ofDocument?) :=
    sorted_eq_of_mem_iff fun x => by simpa [List.mem_filterMap] using h (some x)
  rw [ofDocument?_unionDocument, ofDocument?_unionDocument, ofDocuments?_eq, ofDocuments?_eq, hall]
  cases items'.all fun item => (ofDocument? item).isSome with
  | false => rfl
  | true => exact congrArg (some <| union ·) hsorted

theorem mem_of_ofDocuments? {xs : List Interest} (hread : ofDocuments? items = some xs)
    (hx : x ∈ xs) : ∃ item ∈ items, ofDocument? item = some x := by
  rw [ofDocuments?_eq] at hread
  obtain ⟨-, hxs⟩ := Option.ite_none_right_eq_some.mp hread
  obtain rfl := Option.some.inj hxs
  exact List.mem_filterMap.mp hx

/-- A union is read off the document of one. -/
theorem eq_setOf_of_ofDocument? {members : List Interest}
    (hread : ofDocument? d = some (union members)) :
    ∃ items xs, d = unionDocument items ∧ ofDocuments? items = some xs ∧
      union members = setOf xs := by
  unfold ofDocument? at hread
  split at hread
  any_goals cases hread
  next items =>
    obtain ⟨xs, hxs, hunion⟩ := Option.map_eq_some_iff.mp hread
    exact ⟨items, xs, rfl, hxs, hunion.symm⟩

/-! ### Sets -/

theorem areSets_iff {xs : List Interest} : areSets xs = true ↔ ∀ x ∈ xs, x.IsSet := by
  induction xs with
  | nil => simp [areSets]
  | cons x xs ih => simp [areSets, ih]

theorem isSet_setOf {xs : List Interest} (hsets : ∀ x ∈ xs, x.IsSet) : (setOf xs).IsSet := by
  refine Bool.and_eq_true_iff.mpr ⟨(ascending_iff _).mpr (ascending_sorted xs), ?_⟩
  exact areSets_iff.mpr fun x hx => hsets x (mem_sorted.mp hx)

/-- **Whatever is read is made of sets.** -/
theorem isSet_of_ofDocument? {d : Document} {x : Interest} (hread : ofDocument? d = some x) :
    x.IsSet := by
  cases x with
  | empty | all | application _ | vip _ | instanceId _ => rfl
  | union members =>
    obtain ⟨items, xs, hd, hxs, hunion⟩ := eq_setOf_of_ofDocument? hread
    rw [hunion]
    refine isSet_setOf fun y hy => ?_
    obtain ⟨item, hitem, hy⟩ := mem_of_ofDocuments? hxs hy
    exact isSet_of_ofDocument? hy
termination_by sizeOf d
decreasing_by
  rw [hd]
  exact sizeOf_lt_unionDocument hitem

/-! ### Restatements -/

/-- Two documents differ at most in the order and the repetitions of the members of unions. -/
inductive Restates : Document → Document → Prop
  | refl (d : Document) : Restates d d
  | symm {d d' : Document} (h : Restates d d') : Restates d' d
  | trans {d d' d'' : Document} (h : Restates d d') (h' : Restates d' d'') : Restates d d''
  /-- The members come in another order. -/
  | permute {items items' : List Document} (h : items.Perm items') :
    Restates (unionDocument items) (unionDocument items')
  /-- A member comes once more. -/
  | repeated {item : Document} {items : List Document} (h : item ∈ items) :
    Restates (unionDocument items) (unionDocument (item :: items))
  /-- A member is restated. -/
  | within (before after : List Document) {item item' : Document} (h : Restates item item') :
    Restates (unionDocument (before ++ item :: after)) (unionDocument (before ++ item' :: after))

/-- **Restatements of a document read alike.** -/
theorem Restates.ofDocument?_eq (restates : Restates d d') : ofDocument? d' = ofDocument? d := by
  induction restates with
  | refl => rfl
  | symm _ ih => exact ih.symm
  | trans _ _ ih ih' => exact ih'.trans ih
  | permute h => exact ofDocument?_unionDocument_congr fun r => (h.map ofDocument?).mem_iff.symm
  | repeated h =>
    refine ofDocument?_unionDocument_congr fun r => ?_
    have hread := List.mem_map_of_mem (f := ofDocument?) h
    rw [List.map_cons, List.mem_cons, or_iff_right_of_imp]
    rintro rfl
    exact hread
  | within before after _ ih =>
    refine ofDocument?_unionDocument_congr fun r => ?_
    simp only [List.map_append, List.map_cons, ih]

/-! ### Storage -/

/-- What holds of stored interests. -/
structure Storage : Prop where
  constants : toDocument empty = .text "empty" ∧ toDocument all = .text "all"
  atoms : ∀ s, toDocument (application s) = .map [("application", .text s)] ∧
    toDocument (vip s) = .map [("vip", .text s)] ∧
    toDocument (instanceId s) = .map [("instance", .text s)]
  /-- A union is stored as the list of its members, in the order of the set. -/
  unions : ∀ xs, toDocument (union xs) = unionDocument (xs.map toDocument)
  /-- Every interest is read back from its document. -/
  reads : ∀ x : Interest, x.IsSet → ofDocument? x.toDocument = some x
  /-- Different interests have different documents. -/
  injective : ∀ x y : Interest, x.IsSet → y.IsSet → x.toDocument = y.toDocument → x = y
  /-- Whatever else is read is an interest as well. -/
  isSet : ∀ d x, ofDocument? d = some x → x.IsSet
  /-- In which order and how often the members of unions come does not matter. -/
  restated : ∀ d d' x, Restates d d' → ofDocument? d = some x → ofDocument? d' = some x

/-- **Stored interests are read back**, and so are all restatements of their documents. -/
theorem storage : Storage where
  constants := ⟨rfl, rfl⟩
  atoms _ := ⟨rfl, rfl, rfl⟩
  unions xs := by rw [toDocument, toDocuments_eq_map, unionDocument]
  reads _ := ofDocument?_toDocument
  injective x y hx hy heq :=
    Option.some.inj ((ofDocument?_toDocument hx).symm.trans (heq ▸ ofDocument?_toDocument hy))
  isSet _ _ := isSet_of_ofDocument?
  restated _ _ _ restates hread := restates.ofDocument?_eq.trans hread

/-- The members of a union may be repeated and unsorted, and are left as they are otherwise. -/
example :
    ofDocument? (unionDocument [.text "all",
      unionDocument [.map [("vip", .text "b")], .text "empty", .map [("vip", .text "b")]],
      .map [("all", .null)]]) =
      some (.union [.all, .union [.empty, .vip "b"]]) := by
  decide +kernel

end InterestMux.Interest
