import InterestMux.Proofs.Settings.Conversion
import InterestMux.Proofs.Settings.Layers

/-!
# Settings are overlaid one by one

Settings are loaded from a file and the environment. Every setting has a source of its own: the
variable that names it, or else the entry of the file that names it, or else its default. What is
there besides has no influence on what is loaded, nor on whether anything is.

## Main definitions

* `Settings.get`, `Settings.set`, `Setting.converted` : one setting, and the values that it takes.
* `Setting.Means` : a document stands for a value of a setting.
* `Place` : where settings are loaded from.
* `Place.outcome`, `Place.Gives` : what the source of a setting makes of it, and says that it is.
* `Place.Overlaid` : every setting goes by its source, and nothing else matters.

## Main results

* `Settings.ofLayers_eq_ok_iff` : layers give settings exactly if they give every one of them.
* `Place.load_eq_ok_iff` : what is loaded is what the sources give, if a handler can run with it.
* `Place.overlaid` : settings are overlaid one by one.
-/

namespace InterestMux

/-! ### Single settings -/

/-- The values of a setting. -/
def Setting.Value : Setting → Type
  | .maxReconnectAttempts => Option UInt32
  | .retryWaitMillis | .streamBuffer | .channelHistory => UInt64

/-- The value of a setting that a document converts to. -/
def Setting.converted : (field : Setting) → Document → Except Mismatch field.Value
  | .maxReconnectAttempts, d => convert32? d
  | .retryWaitMillis, d | .streamBuffer, d | .channelHistory, d => convert64 d

/-- A document stands for a value of the setting: for its number, and where there may be none, null
stands for that. -/
def Setting.Means : (field : Setting) → Document → field.Value → Prop
  | .maxReconnectAttempts, d, v =>
    d = .null ∧ v = none ∨ ∃ n : UInt32, v = some n ∧ d.Denotes n.toUInt64
  | .retryWaitMillis, d, w | .streamBuffer, d, w | .channelHistory, d, w => d.Denotes w

theorem Setting.converted_eq_ok_iff {field : Setting} {d : Document} {v : field.Value} :
    field.converted d = .ok v ↔ field.Means d v := by
  cases field with
  | maxReconnectAttempts => exact convert32?_eq_ok_iff
  | retryWaitMillis | streamBuffer | channelHistory => exact convert64_eq_ok_iff

/-- The value that a setting takes from what it holds. It keeps its own if it holds nothing. -/
def Setting.taken (field : Setting) (own : field.Value) : Option Held → Except Mismatch field.Value
  | none => .ok own
  | some .nested => .error (.unsuited "map")
  | some .indexed => .error (.unsuited "sequence")
  | some (.value d _) => field.converted d

namespace Settings

variable {s s' : Settings} {field other : Setting} {layers : List Layer}

/-- The value of a setting. -/
def get (s : Settings) : (field : Setting) → field.Value
  | .retryWaitMillis => s.retryWaitMillis
  | .maxReconnectAttempts => s.maxReconnectAttempts
  | .streamBuffer => s.streamBuffer
  | .channelHistory => s.channelHistory

/-- Gives a setting another value. -/
def set (s : Settings) : (field : Setting) → field.Value → Settings
  | .retryWaitMillis, n => { s with retryWaitMillis := n }
  | .maxReconnectAttempts, n => { s with maxReconnectAttempts := n }
  | .streamBuffer, n => { s with streamBuffer := n }
  | .channelHistory, n => { s with channelHistory := n }

@[simp] theorem get_set_self (s : Settings) (field : Setting) (v : field.Value) :
    (s.set field v).get field = v := by
  cases field <;> rfl

theorem get_set_of_ne (s : Settings) (v : field.Value) (hne : other ≠ field) :
    (s.set field v).get other = s.get other := by
  cases field <;> cases other <;> first | rfl | exact absurd rfl hne

@[simp] theorem set_get_self (s : Settings) (field : Setting) : s.set field (s.get field) = s := by
  cases field <;> rfl

theorem eq_of_get_eq (h : ∀ field, s.get field = s'.get field) : s = s' := by
  obtain ⟨wait, attempts, buffer, history⟩ := s
  obtain ⟨wait', attempts', buffer', history'⟩ := s'
  obtain rfl : wait = wait' := h .retryWaitMillis
  obtain rfl : attempts = attempts' := h .maxReconnectAttempts
  obtain rfl : buffer = buffer' := h .streamBuffer
  obtain rfl : history = history' := h .channelHistory
  rfl

theorem convert_eq (s : Settings) (field : Setting) (d : Document) :
    s.convert field d = (field.converted d).map (s.set field) := by
  cases field <;> rfl

/-! ### Layers -/

theorem take_eq_ok_iff : take layers s field = .ok s' ↔
    ∃ v, field.taken (s.get field) (held? layers field.key) = .ok v ∧ s' = s.set field v := by
  rw [take]
  cases held? layers field.key with
  | none => simp [Setting.taken, eq_comm]
  | some held =>
    cases held with
    | nested | indexed => simp [Setting.taken]
    | value d origin =>
      simp only [Setting.taken, convert_eq]
      cases field.converted d <;> simp [Except.map, eq_comm]

/-- Some settings are taken from the layers exactly if what they hold converts. -/
theorem foldlM_take_eq_ok_iff {fields : List Setting} (hnodup : fields.Nodup) :
    fields.foldlM (take layers) s = .ok s' ↔
      (∀ field ∈ fields, field.taken (s.get field) (held? layers field.key) = .ok (s'.get field)) ∧
        ∀ field ∉ fields, s'.get field = s.get field := by
  induction fields generalizing s with
  | nil =>
    rw [List.foldlM_nil]
    constructor
    · intro h
      obtain rfl := Except.ok.inj h
      simp
    · intro h
      exact congrArg Except.ok (eq_of_get_eq fun field => (h.2 field List.not_mem_nil).symm)
  | cons field fields ih =>
    obtain ⟨hnotMem, hnodup⟩ := List.nodup_cons.mp hnodup
    have hne {other : Setting} (hother : other ∈ fields) : other ≠ field :=
      fun heq => hnotMem (heq ▸ hother)
    rw [List.foldlM_cons, bind_eq_ok_iff]
    constructor
    · rintro ⟨s₁, htake, hrest⟩
      obtain ⟨v, htaken, rfl⟩ := take_eq_ok_iff.mp htake
      obtain ⟨hfields, hothers⟩ := (ih hnodup).mp hrest
      have hv : s'.get field = v := (hothers field hnotMem).trans (get_set_self s field v)
      refine ⟨fun other hother => ?_, fun other hother => ?_⟩
      · rcases List.mem_cons.mp hother with rfl | hother
        · rw [htaken, hv]
        · rw [← hfields other hother, get_set_of_ne s v (hne hother)]
      · rw [List.mem_cons, not_or] at hother
        rw [hothers other hother.2, get_set_of_ne s v hother.1]
    · rintro ⟨hfields, hothers⟩
      refine ⟨s.set field (s'.get field), take_eq_ok_iff.mpr
        ⟨_, hfields field List.mem_cons_self, rfl⟩, (ih hnodup).mpr ⟨?_, ?_⟩⟩
      · intro other hother
        rw [get_set_of_ne s _ (hne hother)]
        exact hfields other (List.mem_cons_of_mem _ hother)
      · intro other hother
        by_cases heq : other = field
        · subst heq
          rw [get_set_self]
        · rw [get_set_of_ne s _ heq]
          exact hothers other (List.not_mem_cons_of_ne_of_not_mem heq hother)

/-- **Layers give settings exactly if they give every one of them**, over the defaults. -/
theorem ofLayers_eq_ok_iff : ofLayers layers = .ok s ↔ ∀ field : Setting,
    field.taken (({} : Settings).get field) (held? layers field.key) = .ok (s.get field) := by
  rw [ofLayers, foldlM_take_eq_ok_iff (by decide)]
  exact ⟨fun h field => h.1 field field.mem_every,
    fun h => ⟨fun field _ => h field, fun field hnot => absurd field.mem_every hnot⟩⟩

end Settings

/-! ### Sources -/

/-- Where settings are loaded from: files with the path of one, and variables with a prefix. -/
structure Place where
  files : Files
  path : Option String
  environment : List (String × String)
  leading : Option String

namespace Place

variable {p : Place} {s : Settings}

/-- What is loaded there. -/
def load (p : Place) : Except LoadFault Settings :=
  Settings.load p.files p.path p.environment p.leading

/-- The layer of the file, if there is a path and it leads to a file with a map. -/
def document? (p : Place) : Option Layer :=
  p.path.bind fun path => (p.files.layer path).toOption

/-- The layer of the variables, if there is a prefix. -/
def variables? (p : Place) : Option Layer :=
  p.leading.map fun leading => .ofEnvironment leading p.environment

/-- If there is a path, it leads to a file with a map. -/
def IsReadable (p : Place) : Prop :=
  ∀ path, p.path = some path → ∃ layer, p.files.layer path = .ok layer

/-- In the file and among the variables, every setting is named at most once, and no key is a path
below one. -/
structure IsPlain (p : Place) : Prop where
  file : ∀ layer, p.document? = some layer → layer.IsPlain
  environment : ∀ layer, p.variables? = some layer → layer.IsPlain

instance (p : Place) : Decidable p.IsPlain :=
  decidable_of_iff ((∀ layer ∈ p.document?, layer.IsPlain) ∧ ∀ layer ∈ p.variables?, layer.IsPlain)
    ⟨fun h => ⟨h.1, h.2⟩, fun h => ⟨h.file, h.environment⟩⟩

/-- The value of a setting in the file. -/
def value? (p : Place) (field : Setting) : Option Document :=
  p.document?.bind fun layer => layer.value? field

/-- The text of the variable that names a setting with the prefix, if there is a prefix. -/
def variableText? (p : Place) (field : Setting) : Option String :=
  p.leading.bind fun leading => InterestMux.variableText? leading p.environment field

/-- What the source of a setting makes of it: the variable that names it is converted, or else its
value in the file, and else it has its default. -/
def outcome (p : Place) (field : Setting) : Except Mismatch field.Value :=
  match p.variableText? field with
  | some s => field.converted (Layer.variableValue s)
  | none =>
    match p.value? field with
    | some d => field.converted d
    | none => .ok (({} : Settings).get field)

/-- The source of a setting says that it has the value: the variable that names it stands for the
value, or else its value in the file does, and else the value is its default. -/
def Gives (p : Place) (field : Setting) (v : field.Value) : Prop :=
  match p.variableText? field, p.value? field with
  | some s, _ => field.Means (Layer.variableValue s) v
  | none, some d => field.Means d v
  | none, none => v = ({} : Settings).get field

theorem outcome_eq_ok_iff {field : Setting} {v : field.Value} :
    p.outcome field = .ok v ↔ p.Gives field v := by
  rw [outcome, Gives]
  cases p.variableText? field with
  | some s => exact Setting.converted_eq_ok_iff
  | none =>
    cases p.value? field with
    | some d => exact Setting.converted_eq_ok_iff
    | none => rw [Except.ok.injEq, eq_comm]

theorem taken_put (field : Setting) (own : field.Value) (origin : String) (d : Document) :
    field.taken own (Layer.put origin none d) = field.converted d := by
  cases d with
  | map entries => cases field <;> cases entries <;> rfl
  | _ => rfl

/-- What a setting takes from the layers of a plain place comes from its source. -/
theorem taken_held? (plain : p.IsPlain) (field : Setting) :
    field.taken (({} : Settings).get field)
      (held? (p.document?.toList ++ p.variables?.toList) field.key) = p.outcome field := by
  have hfile : field.taken (({} : Settings).get field)
      (p.document?.toList.foldl (Layer.overlay field.key) none) =
        match p.value? field with
        | some d => field.converted d
        | none => .ok (({} : Settings).get field) := by
    rw [value?]
    cases hdocument : p.document? with
    | none => rfl
    | some layer =>
      rw [Option.toList_some, List.foldl_cons, List.foldl_nil,
        Layer.overlay_eq (plain.file layer hdocument), Option.bind_some]
      cases layer.value? field with
      | none => rfl
      | some d => exact taken_put field _ layer.origin d
  rw [held?, List.foldl_append]
  generalize p.document?.toList.foldl (Layer.overlay field.key) none = held at hfile ⊢
  rw [outcome, variableText?, variables?]
  cases hleading : p.leading with
  | none => exact hfile
  | some leading =>
    have hplain := plain.environment (.ofEnvironment leading p.environment)
      (by rw [variables?, hleading, Option.map_some])
    rw [Option.map_some, Option.toList_some, List.foldl_cons, List.foldl_nil,
      Layer.overlay_eq hplain, Layer.value?_ofEnvironment, Option.bind_some]
    cases InterestMux.variableText? leading p.environment field with
    | none => exact hfile
    | some s => exact congrArg (field.taken _) (Layer.put_variableValue s)

/-- The layers of the file. -/
def readFile (p : Place) : Except LoadFault (List Layer) :=
  match p.path with
  | some path => (p.files.layer path).map fun layer => [layer]
  | none => .ok []

theorem readFile_eq_ok_iff {layers : List Layer} :
    p.readFile = .ok layers ↔ p.IsReadable ∧ p.document?.toList = layers := by
  rw [readFile, IsReadable, document?]
  cases p.path with
  | none => simp
  | some path =>
    cases hlayer : p.files.layer path <;> simp [hlayer, Except.map, Except.toOption]

theorem load_eq (p : Place) : p.load = p.readFile >>= fun layers =>
    Settings.ofLayers (layers ++ p.variables?.toList) >>= fun s =>
      match s.validate with
      | .ok _ => .ok s
      | .error fault => .error (.invalid fault) := by
  unfold load Settings.load readFile
  cases p.path <;> rfl

theorem load_eq_ok_iff_ofLayers : p.load = .ok s ↔ p.IsReadable ∧
    Settings.ofLayers (p.document?.toList ++ p.variables?.toList) = .ok s ∧
      s.validate = .ok () := by
  simp only [load_eq, bind_eq_ok_iff, readFile_eq_ok_iff, and_assoc]
  constructor
  · rintro ⟨_, hreadable, rfl, s', hlayers, hvalid⟩
    cases hfault : s'.validate with
    | error fault => simp [hfault] at hvalid
    | ok _ =>
      simp only [hfault, Except.ok.injEq] at hvalid
      subst hvalid
      exact ⟨hreadable, hlayers, hfault⟩
  · rintro ⟨hreadable, hlayers, hvalid⟩
    exact ⟨_, hreadable, rfl, s, hlayers, by rw [hvalid]⟩

/-- **What is loaded is what the sources give**, if the file can be read and a handler can run with
the settings. -/
theorem load_eq_ok_iff (plain : p.IsPlain) : p.load = .ok s ↔
    p.IsReadable ∧ (∀ field, p.outcome field = .ok (s.get field)) ∧ s.validate = .ok () := by
  rw [load_eq_ok_iff_ofLayers, Settings.ofLayers_eq_ok_iff]
  simp only [taken_held? plain]

/-- Every setting goes by its source, and nothing else matters. -/
structure Overlaid (p : Place) : Prop where
  /-- In settings that are loaded, every setting is what its source makes of it, and a handler can
  run with them. -/
  given : ∀ s, p.load = .ok s →
    (∀ field, p.outcome field = .ok (s.get field)) ∧ s.validate = .ok ()
  /-- So every setting has the value for which its source stands, and only that value. -/
  meant : ∀ s, p.load = .ok s → ∀ field v, p.Gives field v ↔ v = s.get field
  /-- If the file can be read, such settings are loaded. -/
  loaded : p.IsReadable → ∀ s : Settings, (∀ field, p.outcome field = .ok (s.get field)) →
    s.validate = .ok () → p.load = .ok s
  /-- The same is loaded, or nothing, wherever the variables that name settings are the same, and so
  are the values in the file of the settings that no variable names. -/
  indifferent : p.IsReadable → ∀ p' : Place, p'.IsPlain → p'.IsReadable →
    (∀ field, p'.variableText? field = p.variableText? field) →
    (∀ field, p.variableText? field = none → p'.value? field = p.value? field) →
    ∀ s, p'.load = .ok s ↔ p.load = .ok s

theorem outcome_congr {p' : Place} {field : Setting}
    (hvariable : p'.variableText? field = p.variableText? field)
    (hvalue : p.variableText? field = none → p'.value? field = p.value? field) :
    p'.outcome field = p.outcome field := by
  rw [outcome, outcome, hvariable]
  cases hnone : p.variableText? field with
  | some s => rfl
  | none => rw [hvalue hnone]

/-- **Settings are overlaid one by one.** Wherever the file and the variables name every setting at
most once and no key is a path below one: a setting that is loaded is converted from the variable
that names it, or else from its value in the file, or else has its default; a handler can run with
the settings; and other keys, other variables and the values in the file that a variable takes the
place of, whether they convert or not, change neither what is loaded nor whether anything is. -/
theorem overlaid (plain : p.IsPlain) : p.Overlaid := by
  constructor
  case given =>
    intro s hload
    exact ((load_eq_ok_iff plain).mp hload).2
  case meant =>
    intro s hload field v
    rw [← outcome_eq_ok_iff, ((load_eq_ok_iff plain).mp hload).2.1 field, Except.ok.injEq, eq_comm]
  case loaded =>
    intro hreadable s houtcome hvalid
    exact (load_eq_ok_iff plain).mpr ⟨hreadable, houtcome, hvalid⟩
  case indifferent =>
    intro hreadable p' plain' hreadable' hvariable hvalue s
    have houtcome : p'.outcome = p.outcome :=
      funext fun field => outcome_congr (hvariable field) (hvalue field)
    simp only [load_eq_ok_iff plain, load_eq_ok_iff plain', houtcome, hreadable, hreadable',
      true_and]

/-- A file with keys in any case, a number in a text, an unknown key, and a buffer that does not
convert, under a variable for the buffer and one without the prefix. -/
theorem overlaid_of_shadowed :
    let p : Place := {
      files := [("riq.json",
        "\x7b\"RETRY_WAIT_MS\": 250, \"max_reconnect_attempts\": \"+7\", "
          ++ "\"stream_buffer\": \"many\", \"colour\": []\x7d")]
      path := some "riq.json"
      environment := [("Riq_Stream_Buffer", "64"), ("STREAM_BUFFER", "0")]
      leading := some "riq" }
    p.load.toOption =
      some { retryWaitMillis := 250, maxReconnectAttempts := some 7, streamBuffer := 64 } ∧
      p.Overlaid :=
  ⟨by decide +kernel, overlaid (by decide +kernel)⟩

end Place

end InterestMux
