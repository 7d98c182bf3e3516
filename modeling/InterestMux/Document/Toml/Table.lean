import InterestMux.Document.Basic

/-!
# Tables of TOML

The tables of a document are built line by line: a header opens one, or adds one to a list of
them, and a line with a key gives it a value. No key and no table is defined twice, but a table
that only led to others may be opened later.

## Main definitions

* `Making`, `Entry` : how a table came to be, and what stands under a name.
* `update?` : changes the table at the end of some names.
* `define?`, `openTable?`, `openItem?` : the three kinds of lines.
* `Entry.toDocument` : the table as a value.
-/

namespace InterestMux.Toml

/-- How a table came to be. -/
inductive Making where
  /-- A header or a document opened it. -/
  | opened
  /-- It lies on the way to a table that was opened. -/
  | passed
  /-- It lies on the way to a value that was defined. -/
  | dotted
deriving DecidableEq, Repr, Inhabited

/-- What stands under a name. -/
inductive Entry where
  | value (d : Document)
  | table (making : Making) (entries : List (String × Entry))
  | tables (items : List (List (String × Entry)))
deriving Inhabited

/-- What stands under a name, if anything does. -/
def find? (name : String) (entries : List (String × Entry)) : Option Entry :=
  (entries.find? fun entry => entry.1 == name).map (·.2)

/-- Puts something in place of what stands under a name, or at the end if nothing does. -/
def put (name : String) (entry : Entry) (entries : List (String × Entry)) :
    List (String × Entry) :=
  if (find? name entries).isSome then
    entries.map fun e => if e.1 == name then (name, entry) else e
  else entries ++ [(name, entry)]

/-- Changes the table at the end of some names. The names lead through tables, which are made where
they are missing, and through the last table of a list. The way to a value leads through no table
that was opened. -/
def update? (toValue : Bool)
    (change : Making → List (String × Entry) → Option (List (String × Entry))) :
    List String → Making → List (String × Entry) → Option (List (String × Entry))
  | [], making, entries => change making entries
  | name :: names, _, entries =>
    match find? name entries with
    | none =>
      let making : Making := if toValue then .dotted else .passed
      (update? toValue change names making []).map fun inner =>
        put name (.table making inner) entries
    | some (.value _) => none
    | some (.table making inner) =>
      if toValue ∧ making = .opened then none
      else
        (update? toValue change names making inner).map fun inner =>
          put name (.table making inner) entries
    | some (.tables items) =>
      match items.getLast? with
      | some inner =>
        (update? toValue change names .opened inner).map fun inner =>
          put name (.tables (items.dropLast ++ [inner])) entries
      | none => none

/-- Gives a key a value. The last name must be free, and all names before it lead through tables
that only values made. -/
def define? (key : List String) (value : Document) (entries : List (String × Entry)) :
    Option (List (String × Entry)) :=
  match key.getLast? with
  | none => none
  | some name =>
    update? true (fun making inner =>
      if (making = .dotted) = (key.length ≠ 1) ∧ (find? name inner).isNone then
        some (put name (.value value) inner)
      else none) key.dropLast .opened entries

/-- Opens a table that is not there yet or that only lies on the way to others. -/
def openTable? (path : List String) (entries : List (String × Entry)) :
    Option (List (String × Entry)) :=
  match path.getLast? with
  | none => none
  | some name =>
    update? false (fun _ parent =>
      match find? name parent with
      | none => some (put name (.table .opened []) parent)
      | some (.table .passed inner) => some (put name (.table .opened inner) parent)
      | some _ => none) path.dropLast .opened entries

/-- Adds an empty table to a list of tables. -/
def openItem? (path : List String) (entries : List (String × Entry)) :
    Option (List (String × Entry)) :=
  match path.getLast? with
  | none => none
  | some name =>
    update? false (fun _ parent =>
      match find? name parent with
      | none => some (put name (.tables [[]]) parent)
      | some (.tables items) => some (put name (.tables (items ++ [[]])) parent)
      | some _ => none) path.dropLast .opened entries

mutual

/-- What stands under a name, as a value. -/
def Entry.toDocument : Entry → Document
  | .value d => d
  | .table _ entries => .map (entriesToDocument entries)
  | .tables items => .list (itemsToDocument items)

/-- The entries of a table as those of a map. -/
def entriesToDocument : List (String × Entry) → List (String × Document)
  | [] => []
  | (name, entry) :: entries => (name, entry.toDocument) :: entriesToDocument entries

/-- The tables of a list as maps. -/
def itemsToDocument : List (List (String × Entry)) → List Document
  | [] => []
  | item :: items => .map (entriesToDocument item) :: itemsToDocument items

end

end InterestMux.Toml
