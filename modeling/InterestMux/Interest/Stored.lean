import InterestMux.Document.Basic
import InterestMux.Interest.Basic

/-!
# Stored interests

The document form of an interest: a constant is its name, an atom a map from its kind to its text,
and a union a map from its kind to the list of its members in ascending order. Reading also
accepts a constant as a map from its name to null, and members in any order and number.
-/

namespace InterestMux.Interest

mutual

/-- The document of an interest. -/
def toDocument : Interest → Document
  | empty => .text "empty"
  | all => .text "all"
  | application name => .map [("application", .text name)]
  | vip address => .map [("vip", .text address)]
  | instanceId id => .map [("instance", .text id)]
  | union xs => .map [("union", .list (toDocuments xs))]

/-- The documents of the members of a union. -/
def toDocuments : List Interest → List Document
  | [] => []
  | x :: xs => toDocument x :: toDocuments xs

end

mutual

/-- The interest that a document stands for. -/
def ofDocument? : Document → Option Interest
  | .text "empty" => some empty
  | .text "all" => some all
  | .map [("empty", .null)] => some empty
  | .map [("all", .null)] => some all
  | .map [("application", .text name)] => some (application name)
  | .map [("vip", .text address)] => some (vip address)
  | .map [("instance", .text id)] => some (instanceId id)
  | .map [("union", .list items)] => (ofDocuments? items).map setOf
  | _ => none

/-- The interests that the documents in a list stand for. -/
def ofDocuments? : List Document → Option (List Interest)
  | [] => some []
  | item :: items =>
    match ofDocument? item, ofDocuments? items with
    | some x, some xs => some (x :: xs)
    | _, _ => none

end

/-- How deep the maps and lists of a document may be nested for its text to be read back. -/
def nestingLimit : Nat := 127

/-- The text of the interest's document reads back as the interest. -/
def readsBack (x : Interest) : Bool :=
  x.toDocument.depth ≤ nestingLimit && ofDocument? x.toDocument == some x

end InterestMux.Interest
