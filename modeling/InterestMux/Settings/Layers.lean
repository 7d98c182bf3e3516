import InterestMux.Document.Basic
import InterestMux.Settings.Basic
import InterestMux.Settings.Path

/-!
# Layers of settings

Settings come from two layers, a document and the environment, laid over the defaults. A layer is
a list of keys with values. The entries of all layers are set one after the other, and what a
setting holds in the end is `held?`.

## Main definitions

* `Layer.ofDocument?`, `Layer.ofEnvironment`
* `Held`, `Layer.hold` : what a setting holds, and how an entry changes it.
* `held?` : what the layers make a setting hold.
-/

namespace InterestMux

/-- What a setting holds. -/
inductive Held where
  /-- A value, with the origin of its layer. -/
  | value (d : Document) (origin : String)
  /-- A list made for an index below the setting. -/
  | indexed
  /-- A map made for names below the setting. -/
  | nested
deriving Inhabited

/-- Where a layer comes from, and its keys with values in the order in which they are set. -/
structure Layer where
  origin : String
  entries : List (String × Document)
deriving Inhabited

namespace Layer

/-- What a setting holds after an entry of a layer. A value takes the place of what was there, but
an empty map only fills a gap, and an index below the setting leaves a list where it is. -/
def hold (key origin : String) (held : Option Held) (entry : String × Document) : Option Held :=
  let path := Path.ofKey entry.1
  if path.root = key then
    match path.steps, entry.2 with
    | [], .map [] => held.or (some .nested)
    | [], .map _ => some .nested
    | [], d => some (.value d origin)
    | .name _ :: _, _ => some .nested
    | .index _ :: _, _ =>
      match held with
      | some (.value (.list items) origin) => some (.value (.list items) origin)
      | _ => some .indexed
  else held

/-- What a setting holds after all entries of a layer. -/
def overlay (key : String) (held : Option Held) (layer : Layer) : Option Held :=
  layer.entries.foldl (hold key layer.origin) held

/-- The layer of a document that is a map. -/
def ofDocument? (file : String) : Document → Option Layer
  | .map entries => some ⟨"in " ++ file, entries⟩
  | _ => none

/-- The value of an environment variable: a truth value in any case, an integer, a floating-point
number, or else the text. -/
def variableValue (s : String) : Document :=
  let word := lowercase s
  if word = "true" then .boolean true
  else if word = "false" then .boolean false
  else
    match Numeral.signed64? s.toList, Numeral.binary64? s.toList with
    | some n, _ => .integer n
    | none, some x => .real x
    | none, none => .text s

/-- A name with points for double underscores. -/
def pointed : List Char → List Char
  | '_' :: '_' :: cs => '.' :: pointed cs
  | c :: cs => c :: pointed cs
  | [] => []

/-- The key that a variable sets: its name in lower case after the prefix and an underscore, with
points for double underscores. -/
def variableKey? (leading name : String) : Option String :=
  let pattern := (lowercase (leading ++ "_")).toList
  let name := (lowercase name).toList
  if pattern.isPrefixOf name then some (String.ofList (pointed (name.drop pattern.length)))
  else none

/-- The layer of the environment variables with a prefix. -/
def ofEnvironment (leading : String) (environment : List (String × String)) : Layer :=
  ⟨"in the environment", environment.filterMap fun (name, value) =>
    (variableKey? leading name).map fun key => (key, variableValue value)⟩

end Layer

/-- What a setting holds after all layers, the uppermost last. -/
def held? (layers : List Layer) (key : String) : Option Held :=
  layers.foldl (Layer.overlay key) none

end InterestMux
