import InterestMux.Document.Basic
import InterestMux.Text.Numeral

/-!
# Nodes of YAML

A node is a value of a YAML document. `Node.ofScalar` types a scalar by its tag or by its text,
`Node.ofMembers?` makes a map whose keys differ, and `Node.toDocument?` turns a node into a
document.
-/

namespace InterestMux.Yaml

/-- A value of a YAML document. -/
inductive Node where
  | null
  | boolean (value : Bool)
  | integer (value : Int)
  /-- A floating-point number, as it is written. -/
  | real (text : String)
  | text (value : String)
  | list (items : List Node)
  | map (entries : List (Node × Node))
  /-- A scalar that does not fit its tag, or an alias of a node around it. -/
  | unresolved
deriving Inhabited

namespace Node

/-! ### Scalars -/

/-- The value of a floating-point number as it is written. A word for one is written in letters,
but not every such word has a value. -/
def realValue? (s : String) : Option Binary64 :=
  Numeral.binary64? s.toList

/-- The text is that of a floating-point number. -/
def isReal (s : String) : Bool :=
  [".inf", ".Inf", ".INF", "+.inf", "+.Inf", "+.INF", "-.inf", "-.Inf", "-.INF",
    ".nan", "NaN", ".NAN"].contains s
    || (s.toList.any Char.isDigit && (realValue? s).isSome)

/-- An integer of 64 bits with an optional sign in a base. -/
def based? (base : Nat) (cs : List Char) : Option Int :=
  let (negative, digits) := Numeral.sign cs
  (Numeral.natural? base digits).bind fun n =>
    if negative then (if n ≤ UInt64.size / 2 then some (-(n : Int)) else none)
    else if n < UInt64.size / 2 then some n else none

/-- An integer with a mark of its base or a plus sign in front; a sign may follow either. -/
def marked? : List Char → Option Int
  | '0' :: 'x' :: cs => based? 16 cs
  | '0' :: 'o' :: cs => based? 8 cs
  | '+' :: cs => based? 10 cs
  | _ => none

/-- The node that a plain text stands for. -/
def ofPlain (s : String) : Node :=
  match marked? s.toList with
  | some n => integer n
  | none =>
    if s = "~" ∨ s = "null" then null
    else if s = "true" then boolean true
    else if s = "false" then boolean false
    else
      match based? 10 s.toList with
      | some n => integer n
      | none => if isReal s then real s else text s

/-- What the handles of the common tags stand for. -/
def common : String := "tag:yaml.org,2002:"

/-- The node that a plain text with a common tag stands for. -/
def ofTagged (suffix s : String) : Node :=
  match suffix with
  | "bool" => if s = "true" then boolean true else if s = "false" then boolean false else unresolved
  | "int" => ((based? 10 s.toList).map integer).getD unresolved
  | "float" => if isReal s then real s else unresolved
  | "null" => if s = "~" ∨ s = "null" then null else unresolved
  | _ => text s

/-- The node of a scalar. Only a plain one is typed. -/
def ofScalar (isPlain : Bool) (tag : Option (String × String)) (s : String) : Node :=
  if !isPlain then text s
  else
    match tag with
    | none => ofPlain s
    | some (handle, suffix) => if handle = common then ofTagged suffix s else text s

/-! ### Maps -/

mutual

/-- The nodes are written the same way, up to the base of integers. -/
def same : Node → Node → Bool
  | null, null => true
  | boolean a, boolean b => a == b
  | integer a, integer b => a == b
  | real a, real b => a == b
  | text a, text b => a == b
  | list as, list bs => sameItems as bs
  | map as, map bs => sameEntries as bs
  | unresolved, unresolved => true
  | _, _ => false

/-- Lists of nodes are the same, one by one. -/
def sameItems : List Node → List Node → Bool
  | [], [] => true
  | a :: as, b :: bs => same a b && sameItems as bs
  | _, _ => false

/-- The entries of two maps are the same, in the same order. -/
def sameEntries : List (Node × Node) → List (Node × Node) → Bool
  | [], [] => true
  | (k, a) :: as, (l, b) :: bs => same k l && same a b && sameEntries as bs
  | _, _ => false

end

/-- The entries with those that further members make, keys and values in turn, the first of them
the value of a key that waits for it. A member that is not resolved is no key. -/
def addMembers? (entries : List (Node × Node)) (waiting : Option Node) :
    List Node → Option (List (Node × Node))
  | [] => some entries
  | member :: members =>
    match waiting, member with
    | none, unresolved => addMembers? entries none members
    | none, key => addMembers? entries (some key) members
    | some key, value =>
      if entries.any fun entry => same entry.1 key then none
      else addMembers? (entries ++ [(key, value)]) none members

/-- The map of keys and values in turn. No key may come twice. -/
def ofMembers? (members : List Node) : Option Node :=
  (addMembers? [] none members).map map

/-! ### Documents -/

/-- The text of a key. A key is a scalar, but not null. -/
def keyText? : Node → Option String
  | text s => some s
  | integer n => some (toString n)
  | boolean b => some (if b then "true" else "false")
  | real s => some s
  | _ => none

mutual

/-- The document that a node stands for. -/
def toDocument? : Node → Option Document
  | null | unresolved => some .null
  | boolean b => some (.boolean b)
  | integer n => some (.integer n)
  | real s => (realValue? s).map .real
  | text s => some (.text s)
  | list items => (itemsToDocument? items).map .list
  | map entries => (entriesToDocument? entries).map .map

/-- The documents of the items of a list. -/
def itemsToDocument? : List Node → Option (List Document)
  | [] => some []
  | item :: items =>
    (toDocument? item).bind fun d => (itemsToDocument? items).map (d :: ·)

/-- The entries of a map with documents as values. -/
def entriesToDocument? : List (Node × Node) → Option (List (String × Document))
  | [] => some []
  | (key, value) :: entries =>
    (keyText? key).bind fun key =>
      (toDocument? value).bind fun d => (entriesToDocument? entries).map ((key, d) :: ·)

end

end Node

end InterestMux.Yaml
