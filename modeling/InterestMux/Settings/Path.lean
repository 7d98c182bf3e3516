import InterestMux.Text.Lowercase
import InterestMux.Text.Numeral

/-!
# Paths of settings

The key of an entry is read as a path: a name, then names after points and indices in brackets. A
key in no such form is one name. `Path.ofKey` reads every key, a name alone in lower case.
-/

namespace InterestMux

/-- A step of a path below its first name. -/
inductive PathStep where
  | name (s : String)
  | index (i : Int)
deriving DecidableEq, Repr, Inhabited

/-- A first name, and the steps below it. -/
structure Path where
  root : String
  steps : List PathStep
deriving DecidableEq, Repr, Inhabited

namespace Path

/-- A character of a name in a path. -/
def isNameChar (c : Char) : Bool :=
  c.isAlphanum || c == '_' || c == '-' || c == ' '

/-- The name at the front of a text, and the rest. -/
def name? (cs : List Char) : Option (String × List Char) :=
  let name := cs.takeWhile isNameChar
  if name.isEmpty then none else some (String.ofList name, cs.dropWhile isNameChar)

/-- A blank around an index. -/
def isBlank (c : Char) : Bool :=
  c == ' ' || c == '\t' || c == '\r' || c == '\n'

/-- An index up to its closing bracket: 64 bits with a minus sign, blanks around them. -/
def index? (cs : List Char) : Option (Int × List Char) :=
  let cs := cs.dropWhile isBlank
  let (negative, cs) := match cs with
    | '-' :: cs => (true, cs)
    | cs => (false, cs)
  let (digits, rest) := Numeral.spanDigits cs
  match Numeral.signed64? (if negative then '-' :: digits else digits), rest.dropWhile isBlank with
  | some i, ']' :: rest => some (i, rest)
  | _, _ => none

/-- The steps that a text consists of. -/
def steps? : Nat → List Char → Option (List PathStep)
  | _, [] => some []
  | 0, _ => none
  | fuel + 1, '.' :: cs =>
    (name? cs).bind fun (s, rest) => (steps? fuel rest).map (.name s :: ·)
  | fuel + 1, '[' :: cs =>
    (index? cs).bind fun (i, rest) => (steps? fuel rest).map (.index i :: ·)
  | _, _ => none

/-- The path that a key stands for. -/
def ofKey (key : String) : Path :=
  let steps := (name? key.toList).bind fun (s, rest) =>
    (steps? rest.length rest).map fun steps => (s, steps)
  match steps with
  | some (root, step :: steps) => ⟨root, step :: steps⟩
  | _ => ⟨lowercase key, []⟩

end Path

end InterestMux
