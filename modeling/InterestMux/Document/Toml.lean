import InterestMux.Document.Toml.Moment
import InterestMux.Document.Toml.Number
import InterestMux.Document.Toml.Quoted
import InterestMux.Document.Toml.Table

/-!
# TOML documents

`Toml.read?` reads lines of keys with values, comments and table headers. A key is a path of bare
or quoted names; a date or time stands for its own text. A path has fewer than `Toml.limit` names,
and lists and maps nest less deep.
-/

namespace InterestMux.Toml

/-- Paths have fewer names than this, and values nest less deep. -/
def limit : Nat := 80

/-- What follows a comment, without the end of its line. -/
def skipComment : List Char → List Char
  | '#' :: cs => cs.dropWhile isTextChar
  | cs => cs

/-- What follows blanks, line ends and comments. -/
def skipLines : Nat → List Char → List Char
  | 0, cs => cs
  | fuel + 1, cs =>
    let cs := skipComment (skip cs)
    match lineEnd? cs with
    | some rest => skipLines fuel rest
    | none => cs

/-- What follows the end of a line, with a comment in front of it. -/
def finishLine? (cs : List Char) : Option (List Char) :=
  match skipComment (skip cs) with
  | [] => some []
  | cs => lineEnd? cs

/-! ### Keys and values -/

/-- A character of a name that is not quoted. -/
def isBare (c : Char) : Bool :=
  c.isAlphanum || c == '_' || c == '-'

/-- One name of a key. -/
def name? (cs : List Char) : Option (String × List Char) :=
  match cs with
  | '"' :: _ | '\'' :: _ => shortString? cs
  | cs =>
    let bare := cs.takeWhile isBare
    if bare.isEmpty then none else some (String.ofList bare, cs.dropWhile isBare)

/-- At most so many names with points between them. -/
def key? : Nat → List Char → Option (List String × List Char)
  | 0, _ => none
  | count + 1, cs =>
    match name? (skip cs) with
    | none => none
    | some (name, rest) =>
      match skip rest with
      | '.' :: rest => (key? count rest).map fun (names, rest) => (name :: names, rest)
      | rest => some ([name], rest)

/-- A value without parts: a string, a truth value, a moment or a number. -/
def scalar? : List Char → Option (Document × List Char)
  | 't' :: 'r' :: 'u' :: 'e' :: rest => some (.boolean true, rest)
  | 'f' :: 'a' :: 'l' :: 's' :: 'e' :: rest => some (.boolean false, rest)
  | cs =>
    match string? cs, Moment.read? cs with
    | some (s, rest), _ => some (.text s, rest)
    | none, some (m, rest) => some (.text m.text, rest)
    | none, none => number? cs

mutual

/-- A value in which lists and maps nest at most so deep. -/
def value? (deep : Nat) : Nat → List Char → Option (Document × List Char)
  | 0, _ => none
  | fuel + 1, cs =>
    match cs with
    | '[' :: cs =>
      if deep = 0 then none
      else (items? (deep - 1) fuel cs).map fun (items, rest) => (.list items, rest)
    | '\x7b' :: cs =>
      if deep = 0 then none
      else
        match skip cs with
        | '\x7d' :: rest => some (.map [], rest)
        | cs =>
          (members? (deep - 1) fuel [] cs).map fun (entries, rest) =>
            (.map (entriesToDocument entries), rest)
    | cs => scalar? cs

/-- The items of a list up to its closing bracket; a comma may stand after the last. -/
def items? (deep : Nat) : Nat → List Char → Option (List Document × List Char)
  | 0, _ => none
  | fuel + 1, cs =>
    match skipLines (cs.length + 1) cs with
    | ']' :: rest => some ([], rest)
    | cs =>
      match value? deep fuel cs with
      | none => none
      | some (item, rest) =>
        match skipLines (rest.length + 1) rest with
        | ',' :: rest => (items? deep fuel rest).map fun (items, rest) => (item :: items, rest)
        | ']' :: rest => some ([item], rest)
        | _ => none

/-- The keys with values of a map on one line up to its closing brace. -/
def members? (deep : Nat) : Nat → List (String × Entry) → List Char →
    Option (List (String × Entry) × List Char)
  | 0, _, _ => none
  | fuel + 1, entries, cs =>
    match key? (limit - 1) cs with
    | some (key, '=' :: rest) =>
      match value? deep fuel (skip rest) with
      | none => none
      | some (value, rest) =>
        match define? key value entries, skip rest with
        | some entries, ',' :: rest => members? deep fuel entries rest
        | some entries, '\x7d' :: rest => some (entries, rest)
        | _, _ => none
    | _ => none

end

/-! ### Lines -/

/-- What was read so far: the tables, and the path of the one that lines go to. -/
structure Progress where
  entries : List (String × Entry) := []
  table : List String := []

/-- Opens the table of a header after its opening bracket. -/
def Progress.header? (p : Progress) (cs : List Char) : Option (Progress × List Char) :=
  match cs with
  | '[' :: cs =>
    match key? (limit - 1) cs with
    | some (path, ']' :: ']' :: rest) =>
      (openItem? path p.entries).map fun entries => (⟨entries, path⟩, rest)
    | _ => none
  | cs =>
    match key? (limit - 1) cs with
    | some (path, ']' :: rest) =>
      (openTable? path p.entries).map fun entries => (⟨entries, path⟩, rest)
    | _ => none

/-- Defines the key of a line in the table that lines go to. -/
def Progress.define? (p : Progress) (cs : List Char) : Option (Progress × List Char) :=
  match key? (limit - 1) cs with
  | some (key, '=' :: rest) =>
    (value? (limit - 1) (2 * rest.length + 2) (skip rest)).bind fun (value, rest) =>
      (update? false (fun _ table => Toml.define? key value table) p.table .opened p.entries).map
        fun entries => (⟨entries, p.table⟩, rest)
  | _ => none

/-- Reads line after line. -/
def readLines? : Nat → Progress → List Char → Option (List (String × Entry))
  | 0, _, _ => none
  | fuel + 1, p, cs =>
    match skip cs with
    | [] => some p.entries
    | '#' :: cs => (finishLine? ('#' :: cs)).bind (readLines? fuel p)
    | '\n' :: cs => readLines? fuel p cs
    | '\r' :: cs => (lineEnd? ('\r' :: cs)).bind (readLines? fuel p)
    | '[' :: cs =>
      (p.header? cs).bind fun (p, rest) => (finishLine? rest).bind (readLines? fuel p)
    | cs => (p.define? cs).bind fun (p, rest) => (finishLine? rest).bind (readLines? fuel p)

/-- The map that a text consists of. A mark of byte order in front does not count. -/
def read? (s : String) : Option Document :=
  let cs := match s.toList with
    | '\ufeff' :: cs => cs
    | cs => cs
  (readLines? (cs.length + 1) {} cs).map fun entries => .map (entriesToDocument entries)

end InterestMux.Toml
