/-!
# Places in a YAML text

A cursor is the rest of a text together with its place: line and column, how many characters come
before it, and whether the line had only blanks so far. Blanks are spaces and tabs; a line ends
with a line feed, a carriage return, or both.
-/

namespace InterestMux.Yaml

/-- A blank within a line. -/
def isBlank (c : Char) : Bool :=
  c == ' ' || c == '\t'

/-- A character that ends a line. -/
def isBreak (c : Char) : Bool :=
  c == '\n' || c == '\r'

/-- A character with a meaning of its own in a flow collection. -/
def isFlow (c : Char) : Bool :=
  c == ',' || c == '[' || c == ']' || c == '\x7b' || c == '\x7d'

/-- A character of a name. -/
def isNameChar (c : Char) : Bool :=
  c.isAlphanum || c == '_' || c == '-'

/-- A text that starts with a blank or a line end, or is at its end. -/
def endsWord : List Char → Bool
  | [] => true
  | c :: _ => isBlank c || isBreak c

/-- A text that starts with a line end, or is at its end. -/
def endsLine : List Char → Bool
  | [] => true
  | c :: _ => isBreak c

/-- A text that starts with a character of a flow collection. -/
def startsFlow : List Char → Bool
  | [] => false
  | c :: _ => isFlow c

/-- A text that starts with three hyphens in a word of their own. -/
def startsDocument : List Char → Bool
  | '-' :: '-' :: '-' :: cs => endsWord cs
  | _ => false

/-- A text that starts with three points in a word of their own. -/
def endsDocument : List Char → Bool
  | '.' :: '.' :: '.' :: cs => endsWord cs
  | _ => false

/-- The rest of a text, and its place. -/
structure Cursor where
  rest : List Char
  index : Nat := 0
  line : Nat := 0
  column : Nat := 0
  /-- There were only blanks in the line so far. -/
  fresh : Bool := true
deriving Inhabited

namespace Cursor

/-- The cursor after so many blanks. -/
def advance (c : Cursor) (count : Nat) : Cursor :=
  { c with rest := c.rest.drop count, index := c.index + count, column := c.column + count }

/-- The cursor after so many characters in a line. -/
def step (c : Cursor) (count : Nat) : Cursor :=
  { c.advance count with fresh := false }

/-- The cursor after a line end, or at the end of the text. -/
def newLine (c : Cursor) : Cursor :=
  match c.rest with
  | [] => c
  | '\r' :: '\n' :: rest => ⟨rest, c.index + 2, c.line + 1, 0, true⟩
  | _ :: rest => ⟨rest, c.index + 1, c.line + 1, 0, true⟩

/-- The cursor stands at the mark of a document in the first column. -/
def atMark (c : Cursor) : Bool :=
  c.column == 0 && (startsDocument c.rest || endsDocument c.rest)

/-- The cursor after the blanks and the comment at its place, whether there were tabs, and whether
there were spaces. A comment needs a blank in front. -/
def skipBlanks? (c : Cursor) : Option (Cursor × Bool × Bool) :=
  let blanks := c.rest.takeWhile isBlank
  let c := c.advance blanks.length
  let found := (blanks.contains '\t', blanks.contains ' ')
  match c.rest with
  | '#' :: _ =>
    if blanks.isEmpty then none
    else some (c.step (c.rest.takeWhile fun d => !isBreak d).length, found)
  | _ => some (c, found)

/-- The cursor after blanks and a comment. -/
def afterBlanks? (c : Cursor) : Option Cursor :=
  c.skipBlanks?.map (·.1)

/-- The cursor at the next character that is no blank, line end or comment. With an indentation, a
tab in front of it is refused unless the line has nothing else. -/
def next? (indent : Option Int) : Nat → Cursor → Option Cursor
  | 0, _ => none
  | fuel + 1, c =>
    match c.rest with
    | [] => some c
    | d :: _ =>
      if d == '\t' && c.fresh && indent.any fun i => decide ((c.column : Int) < i) then
        c.afterBlanks?.bind fun c => if endsLine c.rest then next? indent fuel c else none
      else if isBlank d then next? indent fuel (c.advance 1)
      else if isBreak d then next? indent fuel c.newLine
      else if d == '#' then
        next? indent fuel (c.step (c.rest.takeWhile fun d => !isBreak d).length)
      else some c

end Cursor

end InterestMux.Yaml
