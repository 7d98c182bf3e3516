import InterestMux.Document.Yaml.Label
import InterestMux.Document.Yaml.Scalar

/-!
# From layout to tokens

`Layout.tokens?` makes the tokens of a YAML text. Indentation opens and closes block collections. A
token that may turn out to be a key leaves a gap in front of it; the value mark after the key fills
the gap with the tokens that belong there.

## Main definitions

* `Gap` : a place where a key may start.
* `Layout` : what was read of a text.
* `Layout.read?` : reads what stands at the cursor.
* `Layout.tokens?` : all tokens of a text.
-/

namespace InterestMux.Yaml

/-- A place where a key may start. -/
structure Gap where
  number : Nat := 0
  /-- A key may still start here. -/
  isOpen : Bool := false
  /-- A key must start here. -/
  isRequired : Bool := false
  index : Nat := 0
  line : Nat := 0
  column : Nat := 0
deriving Inhabited

/-- A token, or a gap in front of one. -/
inductive Piece where
  | token (t : Token)
  | gap (number : Nat)
deriving Inhabited

/-- An indentation, and whether a block collection opened with it. -/
structure Indent where
  column : Int
  isBlock : Bool
deriving Inhabited

/-- What was read of a text. -/
structure Layout where
  cursor : Cursor
  /-- The pieces so far, the last first. -/
  pieces : List Piece := []
  /-- How many gaps there are. -/
  gaps : Nat := 0
  /-- What fills gaps. -/
  fillings : List (Nat × List Token) := []
  /-- The place where a value mark needs no blank after it. -/
  adjacent : Nat := 0
  /-- A key may start with the next token. -/
  keyAllowed : Bool := true
  /-- The latest gap at this level, and those of the flow collections around it. -/
  gap : Gap := {}
  outer : List Gap := []
  /-- The indentation, and those before it. -/
  indent : Int := -1
  indents : List Indent := []
  /-- A flow map was opened. -/
  inMap : Bool := false
  /-- For each open flow list, whether a map without braces stands in it. -/
  pairs : List Bool := []
deriving Inhabited

namespace Layout

/-- The cursor is in a flow collection. -/
def inFlow (l : Layout) : Bool :=
  !l.outer.isEmpty

/-- Adds a token. -/
def push (l : Layout) (t : Token) : Layout :=
  { l with pieces := .token t :: l.pieces }

/-- Adds a token if there is reason to. -/
def pushIf (l : Layout) (reason : Bool) (t : Token) : Layout :=
  if reason then l.push t else l

/-- Moves the cursor. -/
def moveTo (l : Layout) (cursor : Cursor) : Layout :=
  { l with cursor }

/-! ### Gaps -/

/-- Leaves a gap if a key may start here. It must be one where the items of a block map start. -/
def openGap (l : Layout) : Layout :=
  if !l.keyAllowed then l
  else
    let isRequired :=
      !l.inFlow && l.indent == l.cursor.column && (l.indents.head?.map (·.isBlock)).getD false
    { l with
      pieces := .gap l.gaps :: l.pieces
      gaps := l.gaps + 1
      gap :=
        { number := l.gaps, isOpen := true, isRequired
          index := l.cursor.index, line := l.cursor.line, column := l.cursor.column } }

/-- Closes the latest gap, unless a key must start there. -/
def closeGap? (l : Layout) : Option Layout :=
  if l.gap.isOpen && l.gap.isRequired then none
  else some { l with gap := { l.gap with isOpen := false } }

/-- Closes the latest gap if it is in another line or too far away, and not in a flow collection. -/
def closeStale? (l : Layout) : Option Layout :=
  if !l.inFlow && (l.gap.line < l.cursor.line || l.gap.index + 1024 < l.cursor.index) then
    l.closeGap?
  else some l

/-- Fills the latest gap. -/
def fill (l : Layout) (tokens : List Token) : Layout :=
  { l with
    fillings := (l.gap.number, tokens) :: l.fillings
    gap := { l.gap with isOpen := false } }

/-! ### Indentation -/

/-- The indentation that the column of a block closes to, those before it, and how many block
collections end with that. -/
def closeTo (column : Int) (indent : Int) : List Indent → Int × List Indent × Nat
  | [] => (indent, [], 0)
  | before :: rest =>
    if column < indent then
      let (indent, indents, ends) := closeTo column before.column rest
      (indent, indents, if before.isBlock then ends + 1 else ends)
    else (indent, before :: rest, 0)

/-- Ends the block collections that are indented more than a column. -/
def unindent (l : Layout) (column : Int) : Layout :=
  if l.inFlow then l
  else
    let (indent, indents, ends) := closeTo column l.indent l.indents
    { l with
      indent, indents
      pieces := List.replicate ends (.token .blockEnd) ++ l.pieces }

/-- The indentation without what no block collection opened. -/
def blockIndent (indent : Int) : List Indent → Int × List Indent
  | [] => (indent, [])
  | before :: rest =>
    if before.isBlock then (indent, before :: rest) else blockIndent before.column rest

/-- Drops the indentation that no block collection opened. -/
def dropLoose (l : Layout) : Layout :=
  let (indent, indents) := blockIndent l.indent l.indents
  { l with indent, indents }

/-- Opens a block collection at a column, and says whether it is a new one. -/
def indentTo (l : Layout) (column : Int) : Bool × Layout :=
  if l.inFlow then (false, l)
  else
    let l :=
      match l.indents with
      | before :: rest =>
        if l.indent ≤ column ∧ !before.isBlock then
          { l with indent := before.column, indents := rest }
        else l
      | [] => l
    if l.indent < column then
      (true, { l with indent := column, indents := ⟨l.indent, true⟩ :: l.indents })
    else (false, l)

/-- Indents what follows an item mark or a value mark by one column at least. -/
def indentLoose (l : Layout) : Layout :=
  match l.indents with
  | before :: _ =>
    if !l.inFlow && before.isBlock then
      { l with indent := l.indent + 1, indents := ⟨l.indent, false⟩ :: l.indents }
    else l
  | [] => l

/-! ### Flow collections -/

/-- Opens a flow collection. There are at most 255 of them in each other. -/
def openFlow? (l : Layout) (isMap : Bool) : Option Layout := do
  let l := l.openGap.indentLoose
  guard (l.outer.length < 255)
  let l : Layout :=
    { l with
      outer := l.gap :: l.outer, gap := {}, keyAllowed := true
      inMap := isMap || l.inMap
      pairs := if isMap then l.pairs else false :: l.pairs }
  let cursor ← (l.cursor.step 1).afterBlanks?
  some ((l.push (if isMap then .flowMap else .flowList)).moveTo cursor)

/-- Ends the map without braces in the innermost flow list, if there is one. -/
def endPair (l : Layout) : Layout :=
  match l.pairs with
  | true :: pairs => { l.push .flowMapEnd with pairs := false :: pairs, inMap := false }
  | _ => l

/-- Closes a flow collection. -/
def closeFlow? (l : Layout) (isMap : Bool) : Option Layout := do
  let l ← l.closeGap?
  let l : Layout :=
    match l.outer with
    | gap :: outer => { l with gap, outer, keyAllowed := false }
    | [] => { l with keyAllowed := false }
  let l := if isMap then l else { l.endPair with pairs := l.pairs.tail }
  let cursor ← (l.cursor.step 1).afterBlanks?
  let l := (l.push (if isMap then .flowMapEnd else .flowListEnd)).moveTo cursor
  some (if l.inFlow then { l with adjacent := cursor.index } else l)

/-- Reads a comma. -/
def readComma? (l : Layout) : Option Layout := do
  let l ← l.closeGap?
  let cursor ← (l.cursor.step 1).afterBlanks?
  some (({ l with keyAllowed := true }.endPair.push .comma).moveTo cursor)

/-! ### Marks of items, keys and values -/

/-- Reads the mark of an item of a block list. Only spaces may stand between it and another. -/
def readItem? (l : Layout) : Option Layout := do
  guard (!l.inFlow && l.keyAllowed)
  let (isNew, l) := l.indentTo l.cursor.column
  let l := l.pushIf isNew .blockList
  let (cursor, tabs, _) ← (l.cursor.step 1).skipBlanks?
  guard (!(tabs && cursor.rest.head? == some '-' && endsWord cursor.rest.tail))
  let l := l.moveTo cursor
  let l := if (endsLine cursor.rest && !cursor.rest.isEmpty) || startsFlow cursor.rest then
    l.indentLoose else l
  let l ← l.closeGap?
  some ({ l with keyAllowed := true }.push .item)

/-- The cursor after spaces, comments and line ends, and whether there was any space or line end. -/
def afterSpaces : Nat → Bool → Cursor → Bool × Cursor
  | 0, found, c => (found, c)
  | fuel + 1, found, c =>
    match c.rest with
    | [] => (found, c)
    | d :: _ =>
      if d == ' ' then afterSpaces fuel true (c.advance 1)
      else if isBreak d then afterSpaces fuel true c.newLine
      else if d == '#' then
        afterSpaces fuel found (c.step (c.rest.takeWhile fun d => !isBreak d).length)
      else (found, c)

/-- Reads the mark of a key. -/
def readKey? (l : Layout) : Option Layout := do
  guard (l.inFlow || l.keyAllowed)
  let (isNew, l) := l.indentTo l.cursor.column
  let l := l.pushIf isNew .blockMap
  let l ← l.closeGap?
  let (found, cursor) := afterSpaces (l.cursor.rest.length + 1) false (l.cursor.step 1)
  guard (found && cursor.rest.head? ≠ some '\t')
  some (({ l with keyAllowed := !l.inFlow, inMap := l.inFlow || l.inMap }.push .key).moveTo cursor)

/-- The cursor after the mark of a value. A tab after it needs a space too if a word follows. -/
def afterValueMark? (c : Cursor) : Option Cursor :=
  let c := c.step 1
  if c.rest.head? == some '\t' then
    c.skipBlanks?.bind fun (c, _, spaces) =>
      if !spaces && c.rest.head?.any isNameChar then none else some c
  else some c

/-- Reads the mark of a value. If its key has a gap, the gap is filled; else the key is empty, or
it had a mark of its own. In a flow list a map without braces may begin. -/
def readValue? (l : Layout) : Option Layout := do
  let beginsPair := !l.pairs.isEmpty && !l.inMap
  let line := l.cursor.line
  let column := l.cursor.column
  let cursor ← afterValueMark? l.cursor
  let l := { l.moveTo cursor with pairs := if beginsPair then true :: l.pairs.tail else l.pairs }
  if l.gap.isOpen then
    guard (!(beginsPair && l.gap.line < line))
    let (isNew, l) := l.indentTo l.gap.column
    let start : List Token := if isNew then [.blockMap] else if beginsPair then [.flowMap] else []
    some ({ (l.fill (start ++ [Token.key])).indentLoose with keyAllowed := false }.push .value)
  else
    let l := l.pushIf beginsPair .flowMap
    guard (l.inFlow || l.keyAllowed)
    let (isNew, l) := l.indentTo column
    let l := (l.pushIf isNew .blockMap).indentLoose
    some ({ l with keyAllowed := !l.inFlow }.push .value)

/-! ### Documents and scalars -/

/-- Ends all block collections in front of a directive or the mark of a document. -/
def leaveBlocks? (l : Layout) : Option Layout :=
  (l.unindent (-1)).closeGap?.map fun l => { l with keyAllowed := false }

/-- Reads a directive. -/
def readDirective? (l : Layout) : Option Layout := do
  let l ← l.leaveBlocks?
  let (t, cursor) ← directive? l.cursor
  some ((l.push t).moveTo cursor)

/-- Reads the mark of the start of a document. -/
def readStart? (l : Layout) : Option Layout :=
  l.leaveBlocks?.map fun l => (l.push .documentStart).moveTo (l.cursor.step 3)

/-- Reads the mark of the end of a document. Nothing but a comment may follow it in its line. -/
def readEnd? (l : Layout) : Option Layout := do
  let l ← l.leaveBlocks?
  let cursor ← (l.cursor.step 3).afterBlanks?
  if endsLine cursor.rest then some ((l.push .documentEnd).moveTo cursor) else none

/-- Goes on to the next character that is no blank, line end or comment. A key may start in a new
line. -/
def advance? (l : Layout) : Option Layout :=
  let indent := if l.indents.isEmpty then none else some l.indent
  (l.cursor.next? indent (l.cursor.rest.length + 1)).map fun cursor =>
    { l with cursor, keyAllowed := l.keyAllowed || (!l.inFlow && l.cursor.line < cursor.line) }

/-- Reads an anchor, an alias or a tag. -/
def readLabel? (l : Layout) (c : Char) : Option Layout := do
  let l := { l.openGap with keyAllowed := false }
  let (t, cursor) ←
    if c == '!' then tag? l.inFlow l.cursor
    else (name? l.cursor).map fun (name, cursor) =>
      (if c == '&' then .anchor name else .alias name, cursor)
  some ((l.push t).moveTo cursor)

/-- Reads a block scalar. -/
def readBlock? (l : Layout) (literal : Bool) : Option Layout := do
  let l := { l.openGap with keyAllowed := true }.dropLoose
  let (s, cursor) ← block? literal l.indent l.cursor
  some ((l.push (.scalar false s)).moveTo cursor)

/-- Reads a quoted scalar. The value mark after it needs no blank in a flow collection. -/
def readQuoted? (l : Layout) (single : Bool) : Option Layout := do
  let l := { l.openGap with keyAllowed := false }
  let (s, cursor) ← quoted? l.inFlow single l.indent l.cursor
  let l ← (l.moveTo cursor).advance?
  some ({ l with adjacent := l.cursor.index }.push (.scalar false s))

/-- Reads a plain scalar. A key may start after it if it ended with its line. -/
def readPlain? (l : Layout) : Option Layout := do
  let l := { l.openGap with keyAllowed := false }.dropLoose
  let (s, cursor) ← plain? l.inFlow (l.indent + 1) l.cursor
  some (({ l with keyAllowed := cursor.fresh }.push (.scalar true s)).moveTo cursor)

/-- The value mark at the front of a text: a blank follows it, or in a flow collection one of its
characters, or a quoted scalar or a flow collection comes right before it. -/
def isValueMark (l : Layout) (after : List Char) : Bool :=
  endsWord after || (l.inFlow && (startsFlow after || l.cursor.index == l.adjacent))

/-- Reads what starts with a character. -/
def read? (l : Layout) (c : Char) (after : List Char) : Option Layout :=
  if l.cursor.column == 0 && c == '%' then l.readDirective?
  else if l.cursor.column == 0 && startsDocument l.cursor.rest then l.readStart?
  else if l.cursor.column == 0 && endsDocument l.cursor.rest then l.readEnd?
  else if l.cursor.column < l.indent then none
  else if c == '[' then l.openFlow? false
  else if c == '\x7b' then l.openFlow? true
  else if c == ']' then l.closeFlow? false
  else if c == '\x7d' then l.closeFlow? true
  else if c == ',' then l.readComma?
  else if c == '-' && endsWord after then l.readItem?
  else if c == '?' && endsWord after then l.readKey?
  else if c == ':' && l.isValueMark after then l.readValue?
  else if c == '*' || c == '&' || c == '!' then l.readLabel? c
  else if (c == '|' || c == '>') && !l.inFlow then l.readBlock? (c == '|')
  else if c == '\'' || c == '"' then l.readQuoted? (c == '\'')
  else if c == '%' || c == '@' || c == '\x60' then none
  else l.readPlain?

/-- Ends what is open at the end of the text. -/
def finish? (l : Layout) : Option Layout :=
  if (l.gap :: l.outer).any fun gap => gap.isOpen && gap.isRequired then none
  else some (l.unindent (-1))

/-- Reads to the end of the text. -/
def readAll? : Nat → Layout → Option Layout
  | 0, _ => none
  | fuel + 1, l => do
    let l ← l.advance?
    let l ← l.closeStale?
    let l := l.unindent l.cursor.column
    match l.cursor.rest with
    | [] => l.finish?
    | c :: after => (l.read? c after).bind (readAll? fuel)

/-- The tokens, with the gaps filled. -/
def tokens (l : Layout) : List Token :=
  l.pieces.foldl (fun tokens piece =>
    match piece with
    | .token t => t :: tokens
    | .gap number => (l.fillings.lookup number).getD [] ++ tokens) []

/-- The tokens of a text. It ends at the character with the code zero. -/
def tokens? (s : String) : Option (List Token) :=
  let cs := s.toList.takeWhile fun c => c != '\x00'
  (readAll? (cs.length + 1) { cursor := { rest := cs } }).map tokens

end Layout

end InterestMux.Yaml
