import InterestMux.Proofs.Text.Lowercase
import InterestMux.Settings.Layers

/-!
# How layers name settings

An entry of a layer names a setting if its key in lower case is the key of the setting; a variable
does if its name in lower case is the prefix, an underscore and the key. In a layer that names a
setting at most once, and has no key below it, this one entry decides what the setting holds.

## Main definitions

* `Setting.isNamed` : a key that names a setting.
* `Layer.value?`, `variableText?` : the value of the entry, or of the variable, that names a
  setting.
* `Layer.IsPlain` : every setting is named at most once, and no key is a path below one.

## Main results

* `Path.root_eq_iff` : only a key that names a setting leads to it, as long as none leads below it.
* `Layer.value?_ofEnvironment` : variables name a setting in full.
* `Layer.overlay_eq` : the entry that names a setting decides what it holds.
-/

namespace InterestMux

/-! ### Keys of settings -/

/-- A key in lower case that is the key of the setting. -/
def Setting.isNamed (field : Setting) (key : String) : Bool :=
  lowercase key == field.key

theorem Setting.isNamed_iff {field : Setting} {key : String} :
    field.isNamed key = true ↔ lowercase key = field.key :=
  beq_iff_eq

theorem Setting.mem_every (field : Setting) : field ∈ every := by
  cases field <;> decide

instance {P : Setting → Prop} [DecidablePred P] : Decidable (∀ field, P field) :=
  decidable_of_iff (∀ field ∈ Setting.every, P field)
    ⟨fun h field => h field field.mem_every, fun h field _ => h field⟩

theorem Setting.ascii_key (field : Setting) : ∀ c ∈ field.key.toList, c.toNat < 0x80 := by
  have hall : (field.key.toList.all fun c => decide (c.toNat < 0x80)) = true := by
    cases field <;> decide +kernel
  exact fun c hc => of_decide_eq_true (List.all_eq_true.mp hall c hc)

theorem Setting.lowercase_key (field : Setting) : lowercase field.key = field.key := by
  cases field <;> decide +kernel

theorem Setting.pointed_key (field : Setting) :
    Layer.pointed field.key.toList = field.key.toList := by
  cases field <;> decide +kernel

theorem Setting.point_notMem_key (field : Setting) : '.' ∉ field.key.toList := by
  cases field <;> decide +kernel

theorem Setting.bracket_notMem_key (field : Setting) : '[' ∉ field.key.toList := by
  cases field <;> decide +kernel

/-! ### Paths -/

namespace Path

theorem head_of_steps? {fuel : Nat} {cs : List Char} {step : PathStep} {steps : List PathStep}
    (hsteps : steps? fuel cs = some (step :: steps)) : '.' ∈ cs ∨ '[' ∈ cs := by
  unfold steps? at hsteps
  split at hsteps
  · cases hsteps
  · cases hsteps
  · exact .inl List.mem_cons_self
  · exact .inr List.mem_cons_self
  · cases hsteps

/-- A key is one name, in lower case, or it has steps, and then a point or a bracket in it. -/
theorem ofKey_cases (key : String) :
    ofKey key = ⟨lowercase key, []⟩ ∨
      (ofKey key).steps ≠ [] ∧ ('.' ∈ key.toList ∨ '[' ∈ key.toList) := by
  rw [ofKey]
  split
  case h_2 => exact .inl rfl
  case h_1 root step steps hpath =>
    obtain ⟨⟨name, rest⟩, hname, hrest⟩ := Option.bind_eq_some_iff.mp hpath
    obtain ⟨read, hread, hpair⟩ := Option.map_eq_some_iff.mp hrest
    obtain ⟨-, rfl⟩ := Prod.mk.inj hpair
    have hsub : ∀ c ∈ rest, c ∈ key.toList := by
      obtain ⟨-, hsplit⟩ := Option.ite_none_left_eq_some.mp hname
      obtain ⟨-, rfl⟩ := Prod.mk.inj (Option.some.inj hsplit)
      exact fun c hc => (List.dropWhile_sublist _).subset hc
    exact .inr ⟨List.cons_ne_nil _ _, (head_of_steps? hread).imp (hsub _) (hsub _)⟩

theorem ofKey_of_isNamed {field : Setting} {key : String} (hnamed : field.isNamed key = true) :
    ofKey key = ⟨field.key, []⟩ := by
  have hkey := Setting.isNamed_iff.mp hnamed
  rcases ofKey_cases key with hname | ⟨-, hpoint | hbracket⟩
  · rw [hname, hkey]
  · exact absurd (hkey ▸ mem_lowercase hpoint (by decide)) field.point_notMem_key
  · exact absurd (hkey ▸ mem_lowercase hbracket (by decide)) field.bracket_notMem_key

/-- **Only a key that names a setting leads to it**, if no key leads below it. -/
theorem root_eq_iff {field : Setting} {key : String}
    (hplain : (ofKey key).root = field.key → (ofKey key).steps = []) :
    (ofKey key).root = field.key ↔ field.isNamed key = true := by
  constructor
  · intro hroot
    rcases ofKey_cases key with hname | ⟨hsteps, -⟩
    · rw [hname] at hroot
      exact Setting.isNamed_iff.mpr hroot
    · exact absurd (hplain hroot) hsteps
  · intro hnamed
    rw [ofKey_of_isNamed hnamed]

end Path

/-! ### Variables -/

namespace Layer

theorem pointed_of_notMem {cs : List Char} (hpoint : '.' ∉ pointed cs) : pointed cs = cs := by
  induction cs using pointed.induct with
  | case1 cs ih => exact absurd List.mem_cons_self hpoint
  | case2 c cs hother ih =>
    rw [pointed.eq_2 _ _ hother] at hpoint ⊢
    rw [ih fun hc => hpoint (List.mem_cons_of_mem _ hc)]
  | case3 => rfl

theorem variableKey?_eq_some_iff {leading name key : String} :
    variableKey? leading name = some key ↔ ∃ rest,
      (lowercase name).toList = (lowercase leading ++ "_").toList ++ rest ∧
        key = String.ofList (pointed rest) := by
  rw [variableKey?, lowercase_append_underscore, Option.ite_none_right_eq_some,
    List.isPrefixOf_iff_prefix, Option.some.injEq]
  constructor
  · rintro ⟨⟨rest, hname⟩, rfl⟩
    refine ⟨rest, hname.symm, ?_⟩
    rw [← hname, List.drop_left]
  · rintro ⟨rest, hname, rfl⟩
    refine ⟨⟨rest, hname.symm⟩, ?_⟩
    rw [hname, List.drop_left]

/-- **A variable names a setting in full**: its name in lower case is the prefix, an underscore and
the key of the setting. -/
theorem isNamed_variableKey?_iff {leading name : String} {field : Setting} :
    (∃ key, variableKey? leading name = some key ∧ field.isNamed key = true) ↔
      lowercase name = lowercase leading ++ "_" ++ field.key := by
  simp only [variableKey?_eq_some_iff, Setting.isNamed_iff]
  constructor
  · rintro ⟨_, ⟨rest, hname, rfl⟩, hkey⟩
    have hpoint : '.' ∉ pointed rest := by
      intro hc
      rw [← String.toList_ofList (l := pointed rest)] at hc
      exact field.point_notMem_key (hkey ▸ mem_lowercase hc (by decide))
    rw [pointed_of_notMem hpoint] at hkey
    have hsmall : ∀ c ∈ (String.ofList rest).toList, isSmall c = true := by
      intro c hc
      rw [String.toList_ofList] at hc
      refine isSmall_of_mem_lowercase (s := name) ?_
      rw [hname]
      exact List.mem_append_right _ hc
    have hrest := eq_of_lowercase_eq hsmall field.ascii_key hkey
    apply String.toList_inj.mp
    rw [String.toList_append, ← hrest, String.toList_ofList, hname]
  · intro hname
    refine ⟨field.key, ⟨field.key.toList, ?_, ?_⟩, field.lowercase_key⟩
    · rw [hname, String.toList_append]
    · rw [field.pointed_key, String.ofList_toList]

/-! ### Values -/

/-- The value of the first entry that names the setting. -/
def value? (layer : Layer) (field : Setting) : Option Document :=
  (layer.entries.find? fun entry => field.isNamed entry.1).map Prod.snd

/-- Every setting is named at most once, and no key is a path below one. -/
structure IsPlain (layer : Layer) : Prop where
  once : ∀ field : Setting, layer.entries.countP (fun entry => field.isNamed entry.1) ≤ 1
  direct : ∀ entry ∈ layer.entries, ∀ field : Setting,
    (Path.ofKey entry.1).root = field.key → (Path.ofKey entry.1).steps = []

instance (layer : Layer) : Decidable layer.IsPlain :=
  decidable_of_iff (_ ∧ _) ⟨fun h => ⟨h.1, h.2⟩, fun h => ⟨h.once, h.direct⟩⟩

end Layer

/-- The text of the first variable that names the setting. -/
def variableText? (leading : String) (environment : List (String × String)) (field : Setting) :
    Option String :=
  (environment.find? fun v => lowercase v.1 == lowercase leading ++ "_" ++ field.key).map Prod.snd

namespace Layer

variable {layer : Layer} {field : Setting} {origin : String} {held : Option Held}

/-- **The layer of the environment has the values of the variables that name a setting in full.** -/
theorem value?_ofEnvironment (leading : String) (environment : List (String × String))
    (field : Setting) : (ofEnvironment leading environment).value? field =
      (variableText? leading environment field).map variableValue := by
  simp only [value?, ofEnvironment, variableText?]
  induction environment with
  | nil => rfl
  | cons v environment ih =>
    rw [List.filterMap_cons, List.find?_cons]
    by_cases hname : lowercase v.1 = lowercase leading ++ "_" ++ field.key
    · obtain ⟨key, hkey, hnamed⟩ := isNamed_variableKey?_iff.mpr hname
      simp only [hkey, Option.map_some, List.find?_cons, hnamed, beq_iff_eq.mpr hname]
    · have hother : ∀ key, variableKey? leading v.1 = some key → field.isNamed key = false :=
        fun key hkey => Bool.eq_false_iff.mpr fun hnamed =>
          hname (isNamed_variableKey?_iff.mp ⟨key, hkey, hnamed⟩)
      rw [beq_eq_false_iff_ne.mpr hname]
      cases hkey : variableKey? leading v.1 with
      | none => exact ih
      | some key =>
        simp only [Option.map_some, List.find?_cons, hother key hkey]
        exact ih

/-- What a setting holds after a value is set. -/
def put (origin : String) (held : Option Held) : Document → Option Held
  | .map [] => held.or (some .nested)
  | .map _ => some .nested
  | d => some (.value d origin)

theorem hold_of_isNamed {entry : String × Document} (hnamed : field.isNamed entry.1 = true) :
    hold field.key origin held entry = put origin held entry.2 := by
  unfold hold
  rw [Path.ofKey_of_isNamed hnamed]
  refine (if_pos rfl).trans ?_
  cases entry.2 with
  | map entries => cases entries <;> rfl
  | _ => rfl

theorem foldl_hold_of_root {entries : List (String × Document)}
    (helse : ∀ entry ∈ entries, (Path.ofKey entry.1).root ≠ field.key) :
    entries.foldl (hold field.key origin) held = held := by
  induction entries with
  | nil => rfl
  | cons entry entries ih =>
    have hfirst : hold field.key origin held entry = held :=
      if_neg (helse entry List.mem_cons_self)
    rw [List.foldl_cons, hfirst]
    exact ih fun entry hentry => helse entry (List.mem_cons_of_mem _ hentry)

/-- **The entry that names a setting decides what it holds**, in a plain layer. -/
theorem overlay_eq (plain : layer.IsPlain) (field : Setting) (held : Option Held) :
    overlay field.key held layer =
      match layer.value? field with
      | some d => put layer.origin held d
      | none => held := by
  have helse (entries : List (String × Document)) (hsub : ∀ e ∈ entries, e ∈ layer.entries)
      (hnone : ∀ e ∈ entries, ¬ field.isNamed e.1 = true) (held : Option Held) :
      entries.foldl (hold field.key layer.origin) held = held :=
    foldl_hold_of_root fun e he hroot =>
      hnone e he ((Path.root_eq_iff (plain.direct e (hsub e he) field)).mp hroot)
  rw [overlay, value?]
  cases hfind : layer.entries.find? fun entry => field.isNamed entry.1 with
  | none => exact helse _ (fun _ he => he) (List.find?_eq_none.mp hfind) held
  | some entry =>
    obtain ⟨hnamed, before, after, hentries, hbefore⟩ := List.find?_eq_some_iff_append.mp hfind
    -- The setting is named once, so not after this entry.
    have hafter : ∀ e ∈ after, ¬ field.isNamed e.1 = true := by
      have honce := plain.once field
      rw [hentries, List.countP_append, List.countP_cons, if_pos hnamed] at honce
      exact List.countP_eq_zero.mp (by omega)
    rw [hentries, List.foldl_append, List.foldl_cons, helse before, hold_of_isNamed hnamed,
      helse after _ hafter]
    · rfl
    · exact fun e he => hentries ▸ List.mem_append_right _ (List.mem_cons_of_mem _ he)
    · exact fun e he => hentries ▸ List.mem_append_left _ he
    · exact fun e he => by simpa using hbefore e he

theorem put_variableValue (s : String) :
    put origin held (variableValue s) = some (.value (variableValue s) origin) := by
  rw [variableValue]
  split
  · rfl
  split
  · rfl
  split <;> rfl

end Layer

end InterestMux
