import InterestMux.Document.Basic

/-!
# Sources

Where a registered instance was learned from: an origin, an optional name and a number that tells
sources of one origin and name apart.
-/

namespace InterestMux

/-- How the registry learned of an instance. -/
inductive Origin where
  | local
  | replicated
  | interested
deriving DecidableEq, Repr, Inhabited

/-- The source of registry entries. -/
structure Source where
  origin : Origin
  name : Option String
  id : UInt64
deriving DecidableEq, Inhabited

namespace Origin

/-- The name of an origin. -/
def text : Origin → String
  | .local => "local"
  | .replicated => "replicated"
  | .interested => "interested"

/-- The origin with the name. -/
def ofText? (name : String) : Option Origin :=
  if name = "local" then some .local
  else if name = "replicated" then some .replicated
  else if name = "interested" then some .interested
  else none

/-- The position of an origin in the order. -/
def rank : Origin → Nat
  | .local => 0
  | .replicated => 1
  | .interested => 2

/-- The origin that a document stands for. -/
def ofDocument? (d : Document) : Option Origin :=
  d.constant?.bind ofText?

end Origin

namespace Source

/-- The origin, then the name after a colon if there is one, then the number after a hash sign. -/
def text (s : Source) : String :=
  match s.name with
  | some name => s.origin.text ++ ":" ++ name ++ "#" ++ toString s.id.toNat
  | none => s.origin.text ++ "#" ++ toString s.id.toNat

/-- The order of names; a missing name comes first. -/
def compareNames : Option String → Option String → Ordering
  | none, none => .eq
  | none, some _ => .lt
  | some _, none => .gt
  | some a, some b => Ord.compare a b

/-- Sources are ordered by origin, then by name, then by number. -/
def compare (s t : Source) : Ordering :=
  ((Ord.compare s.origin.rank t.origin.rank).then (compareNames s.name t.name)).then
    (Ord.compare s.id.toNat t.id.toNat)

/-- The sources in ascending order. Equal ones all stay. -/
def arranged (xs : List Source) : List Source :=
  xs.mergeSort fun s t => compare s t != .gt

/-- Sources made one after another: each has the number after the one before it. -/
def numbered (first : UInt64) : List (Origin × Option String) → List Source
  | [] => []
  | (origin, name) :: rest => ⟨origin, name, first⟩ :: numbered (first + 1) rest

/-- The document of a source. -/
def toDocument (s : Source) : Document :=
  .map [("origin", .text s.origin.text), ("name", (s.name.map Document.text).getD .null),
    ("id", .integer s.id.toNat)]

/-- A name, or null for none. -/
def nameOfDocument? : Document → Option (Option String)
  | .null => some none
  | .text name => some (some name)
  | _ => none

/-- The source made of three documents. -/
def ofParts? (origin name id : Document) : Option Source :=
  match Origin.ofDocument? origin, nameOfDocument? name, id.word64? with
  | some origin, some name, some id => some ⟨origin, name, id⟩
  | _, _, _ => none

/-- The source that a document stands for: a map, where the name may be missing and other keys
do not count, or the list of its three parts. -/
def ofDocument? : Document → Option Source
  | .map entries =>
    match Document.lookup? "origin" entries, Document.lookup? "id" entries with
    | some origin, some id => ofParts? origin ((Document.lookup? "name" entries).getD .null) id
    | _, _ => none
  | .list [origin, name, id] => ofParts? origin name id
  | _ => none

end Source

end InterestMux
