import InterestMux.Binary64.Shortest
import InterestMux.Document.Json
import InterestMux.Document.Toml
import InterestMux.Document.Yaml
import InterestMux.Settings.Layers
import InterestMux.Text.Quoted

/-!
# Loading settings

`Settings.load` reads the document of a path and the environment and converts what the layers say
about each setting. Numbers, truth values and texts convert to unsigned integers; a value that
does not convert is a `LoadFault`, whose `message?` is the wording.
-/

namespace InterestMux

/-- A value that does not convert to its setting. -/
inductive Mismatch where
  /-- An integer that is negative, or of more than 64 bits. -/
  | outside (n : Int)
  /-- A value of another kind. -/
  | unsuited (found : String)
  /-- An integer of more than 32 bits. -/
  | tooWide (n : UInt64)
deriving DecidableEq, Inhabited

/-- Why settings could not be loaded. -/
inductive LoadFault where
  /-- No file has the name. -/
  | missing (path : String)
  /-- The file is in no known format. -/
  | unknownFormat
  /-- The file is not well-formed in its format. -/
  | malformed
  /-- The file holds several documents. -/
  | documents (count : Nat) (file : String)
  /-- The document is not a map. -/
  | notMap (found : String) (file : String)
  /-- The value of a setting does not convert. -/
  | mismatch (setting : Setting) (cause : Mismatch) (origin : Option String)
  /-- No handler can run with the settings. -/
  | invalid (fault : SettingsFault)
deriving DecidableEq, Inhabited

/-- The formats of documents. -/
inductive Format where
  | toml
  | json
  | yaml
deriving DecidableEq, Repr, Inhabited

namespace Format

/-- The format that a file name's extension stands for, in this very case. -/
def ofExtension? (extension : String) : Option Format :=
  if extension = "toml" then some .toml
  else if extension = "json" then some .json
  else if extension = "yaml" ∨ extension = "yml" then some .yaml
  else none

/-- The extensions that are tried for a name without a file. -/
def extensions : List String :=
  ["toml", "json", "yaml", "yml"]

end Format

/-! ### Kinds of values -/

/-- The kind of a document, with the value if it is a scalar. -/
def Document.kindText : Document → String
  | .null => "unit value"
  | .boolean b => "boolean \x60" ++ (if b then "true" else "false") ++ "\x60"
  | .integer n => "64-bit integer \x60" ++ toString n ++ "\x60"
  | .real x => "floating point \x60" ++ x.text ++ "\x60"
  | .text s => "string " ++ Quoted.encode s
  | .list _ => "sequence"
  | .map _ => "map"

namespace Mismatch

/-- What was found and what was expected instead. -/
def text : Mismatch → String
  | outside n =>
    "invalid type: 64-bit integer \x60" ++ toString n
      ++ "\x60, expected an unsigned 64 bit or less integer"
  | unsuited found => "invalid type: " ++ found ++ ", expected an integer"
  | tooWide n =>
    "invalid type: 64-bit unsigned integer \x60" ++ toString n.toNat
      ++ "\x60, expected an unsigned 32 bit integer"

end Mismatch

namespace LoadFault

/-- The text of a fault. The text of a malformed file is left to the format. -/
def message? : LoadFault → Option String
  | missing path =>
    some (Failure.settings ("configuration file \"" ++ path ++ "\" not found")).message
  | unknownFormat | malformed => none
  | documents count file =>
    some (Failure.settings
      ("Got " ++ toString count ++ " YAML documents, expected 1 in " ++ file)).message
  | notMap found file =>
    some (Failure.settings
      ("invalid type: " ++ found ++ ", expected a map in " ++ file ++ " in " ++ file)).message
  | mismatch setting cause origin =>
    some (Failure.settings (cause.text ++ " for key \x60" ++ setting.key ++ "\x60"
      ++ (match origin with
        | some origin => " " ++ origin
        | none => ""))).message
  | invalid fault => some (Failure.invalidSettings fault).message

end LoadFault

/-! ### Conversion -/

/-- The integer that a text stands for: a word for yes or no, or an unsigned numeral. -/
def word64OfText? (s : String) : Option UInt64 :=
  let word := lowercase s
  if word = "true" ∨ word = "on" ∨ word = "yes" then some 1
  else if word = "false" ∨ word = "off" ∨ word = "no" then some 0
  else Numeral.unsigned64? s.toList

/-- The value as a 64-bit unsigned integer. -/
def convert64 : Document → Except Mismatch UInt64
  | .integer n =>
    match (Document.integer n).word64? with
    | some word => .ok word
    | none => .error (.outside n)
  | .boolean b => .ok (if b then 1 else 0)
  | .real x => .ok x.toWord
  | .text s =>
    match word64OfText? s with
    | some n => .ok n
    | none => .error (.unsuited (Document.text s).kindText)
  | d => .error (.unsuited d.kindText)

/-- The value as a 32-bit unsigned integer, or nothing for null. -/
def convert32? : Document → Except Mismatch (Option UInt32)
  | .null => .ok none
  | d =>
    match convert64 d with
    | .ok n =>
      if n.toNat < UInt32.size then .ok (some (UInt32.ofNat n.toNat)) else .error (.tooWide n)
    | .error cause => .error cause

namespace Settings

/-- Converts a value into one setting. -/
def convert (s : Settings) (setting : Setting) (d : Document) : Except Mismatch Settings :=
  match setting with
  | .retryWaitMillis => (convert64 d).map fun n => { s with retryWaitMillis := n }
  | .maxReconnectAttempts => (convert32? d).map fun n => { s with maxReconnectAttempts := n }
  | .streamBuffer => (convert64 d).map fun n => { s with streamBuffer := n }
  | .channelHistory => (convert64 d).map fun n => { s with channelHistory := n }

/-- The origin of a mismatch: a map and an integer that is too wide have none. -/
def mismatchOrigin? (cause : Mismatch) (origin : String) : Option String :=
  match cause with
  | .tooWide _ => none
  | _ => some origin

/-- Takes one setting from the layers, or leaves it as it is. -/
def take (layers : List Layer) (s : Settings) (setting : Setting) : Except LoadFault Settings :=
  match held? layers setting.key with
  | none => .ok s
  | some .nested => .error (.mismatch setting (.unsuited "map") none)
  | some .indexed => .error (.mismatch setting (.unsuited "sequence") none)
  | some (.value d origin) =>
    match s.convert setting d with
    | .ok s => .ok s
    | .error cause => .error (.mismatch setting cause (mismatchOrigin? cause origin))

/-- The settings that the layers give, over the defaults. -/
def ofLayers (layers : List Layer) : Except LoadFault Settings :=
  Setting.every.foldlM (take layers) {}

end Settings

/-! ### Files -/

/-- Names of files with their contents. -/
abbrev Files := List (String × String)

namespace Files

/-- The parts of a text between separators, after the reversed characters read of the first. -/
def partsFrom (separator : Char) (read : List Char) : List Char → List String
  | [] => [String.ofList read.reverse]
  | c :: cs =>
    if c = separator then String.ofList read.reverse :: partsFrom separator [] cs
    else partsFrom separator (c :: read) cs

/-- The parts of a text between separators. -/
def parts (separator : Char) (s : String) : List String :=
  partsFrom separator [] s.toList

/-- The contents of a file. -/
def contents? (files : Files) (name : String) : Option String :=
  (files.find? fun file => file.1 == name).map (·.2)

/-- There are files in the folder with the steps. -/
def hasFolder (files : Files) (folder : List String) : Bool :=
  files.any fun file => ("/".intercalate folder ++ "/").toList.isPrefixOf file.1.toList

/-- The contents of the file at the end of some steps from a folder, none of which leads out of all
folders. A step to the same folder or to no name at all is no file. -/
def follow? (files : Files) (folder : List String) : List String → Option String
  | [] => none
  | [name] =>
    if name = "" ∨ name = "." ∨ name = ".." then none
    else files.contents? ("/".intercalate (folder ++ [name]))
  | step :: steps =>
    if step = "" ∨ step = "." then files.follow? folder steps
    else if step = ".." then
      if folder.isEmpty then none else files.follow? folder.dropLast steps
    else if files.hasFolder (folder ++ [step]) then files.follow? (folder ++ [step]) steps
    else none

/-- The steps of a path but those to the same folder. -/
def plainSteps (path : String) : List String :=
  (parts '/' path).filter fun step => step ≠ "" ∧ step ≠ "."

/-- The name at the end of a path that does not start outside of all folders. -/
def lastName? (path : String) : Option String :=
  if path.toList.head? = some '/' then none
  else (plainSteps path).getLast?.filter (· ≠ "..")

/-- What follows the last point of a name, unless the name starts with it. -/
def extension? (name : String) : Option String :=
  match parts '.' name with
  | [] | [_] => none
  | ["", _] => none
  | names => names.getLast?

/-- The file to open for a path, with its format: the file of that very name, or the first with an
extension added. -/
def locate (files : Files) (path : String) : Except LoadFault (String × String × Format) :=
  match lastName? path with
  | none => .error (.missing path)
  | some last =>
    match files.follow? [] (parts '/' path) with
    | some contents =>
      match (extension? last).bind Format.ofExtension? with
      | some format => .ok ("/".intercalate (plainSteps path), contents, format)
      | none => .error .unknownFormat
    | none =>
      let candidates := Format.extensions.filterMap fun extension =>
        let found := (plainSteps path).dropLast ++ [last ++ "." ++ extension]
        match files.follow? [] found, Format.ofExtension? extension with
        | some contents, some format => some ("/".intercalate found, contents, format)
        | _, _ => none
      match candidates with
      | found :: _ => .ok found
      | [] => .error (.missing path)

/-- The document of a file. A stream without documents is an empty map. -/
def document (file contents : String) : Format → Except LoadFault Document
  | .toml => (Toml.read? contents).elim (.error .malformed) .ok
  | .json => (Json.read? contents).elim (.error .malformed) .ok
  | .yaml =>
    match Yaml.read? contents with
    | none => .error .malformed
    | some [] => .ok (.map [])
    | some [node] => node.toDocument?.elim (.error .malformed) .ok
    | some nodes => .error (.documents nodes.length file)

/-- The layer of the file that a path leads to. -/
def layer (files : Files) (path : String) : Except LoadFault Layer := do
  let (file, contents, format) ← files.locate path
  let d ← document file contents format
  match Layer.ofDocument? file d with
  | some layer => .ok layer
  | none => .error (.notMap d.kindText file)

end Files

namespace Settings

/-- Loads settings from the file of a path, if one is given, and from the environment variables
with a prefix, if one is given, and checks that a handler can run with them. -/
def load (files : Files) (path : Option String) (environment : List (String × String))
    (leading : Option String) : Except LoadFault Settings := do
  let fileLayers ←
    match path with
    | some path => (files.layer path).map fun layer => [layer]
    | none => .ok []
  let variableLayers := (leading.map fun leading => Layer.ofEnvironment leading environment).toList
  let s ← ofLayers (fileLayers ++ variableLayers)
  match s.validate with
  | .ok _ => .ok s
  | .error fault => .error (.invalid fault)

end Settings

end InterestMux
