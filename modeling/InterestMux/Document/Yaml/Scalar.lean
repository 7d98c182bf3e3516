import InterestMux.Document.Yaml.Cursor
import InterestMux.Text.Numeral

/-!
# Scalars of YAML

The texts of plain, quoted and block scalars. A line end within a plain or a quoted scalar is a
space, and of several in a row one is left out; the same holds in a folded block.

## Main definitions

* `Fold` : what was read of a scalar of several lines.
* `plain?`, `quoted?`, `block?` : a scalar at a cursor, and the cursor after it.
-/

namespace InterestMux.Yaml

/-- What was read of a scalar of several lines: its text in reverse, the blanks since the last
word, whether a line has ended since then, and how many more. -/
structure Fold where
  read : List Char := []
  blanks : List Char := []
  ended : Bool := false
  more : Nat := 0

namespace Fold

/-- Adds what stands for the line ends since the last word. -/
def joinLines (f : Fold) : Fold :=
  let lines := if f.ended && f.more == 0 then [' '] else List.replicate f.more '\n'
  { f with read := lines ++ f.read, ended := false, more := 0 }

/-- Adds the blanks since the last word. -/
def joinBlanks (f : Fold) : Fold :=
  { f with read := f.blanks ++ f.read, blanks := [] }

/-- Adds a word. -/
def add (f : Fold) (word : List Char) : Fold :=
  { f with read := word.reverse ++ f.read }

/-- Ends a line: the first since the last word or another one. -/
def endLine (f : Fold) (first : Bool) : Fold :=
  if first then { f with blanks := [], ended := true } else { f with more := f.more + 1 }

/-- The text. -/
def text (f : Fold) : String :=
  String.ofList f.read.reverse

end Fold

/-! ### Plain scalars -/

/-- The character at the front belongs to a plain scalar. -/
def isPlain (inFlow : Bool) : List Char → Bool
  | [] => false
  | ':' :: cs => !(endsWord cs || (inFlow && startsFlow cs))
  | c :: _ => !(inFlow && isFlow c)

/-- The word at the front of a plain scalar. -/
def plainWord (inFlow : Bool) : List Char → List Char
  | [] => []
  | c :: cs =>
    if isBlank c || isBreak c || !isPlain inFlow (c :: cs) then [] else c :: plainWord inFlow cs

/-- The blanks and line ends after a word of a plain scalar. A tab in the indentation is refused
unless the line has nothing else. -/
def plainGap? (indent : Int) : Nat → Fold → Cursor → Option (Fold × Cursor)
  | 0, _, _ => none
  | fuel + 1, f, c =>
    match c.rest with
    | [] => some (f, c)
    | d :: _ =>
      if isBlank d then
        if !c.fresh then plainGap? indent fuel { f with blanks := d :: f.blanks } (c.advance 1)
        else if d == '\t' && c.column < indent then
          c.afterBlanks?.bind fun c => if endsLine c.rest then plainGap? indent fuel f c else none
        else plainGap? indent fuel f (c.advance 1)
      else if isBreak d then plainGap? indent fuel (f.endLine !c.fresh) c.newLine
      else some (f, c)

/-- The words of a plain scalar. -/
def plainWords? (inFlow : Bool) (indent : Int) : Nat → Fold → Cursor → Option (Fold × Cursor)
  | 0, _, _ => none
  | fuel + 1, f, c =>
    match c.rest with
    | [] => some (f, c)
    | d :: cs =>
      if c.atMark || d == '#' then some (f, c)
      else if inFlow && d == '-' && startsFlow cs then none
      else
        let word := plainWord inFlow c.rest
        let (f, c) :=
          if word.isEmpty then (f, c)
          else ((if c.fresh then f.joinLines else f.joinBlanks).add word, c.step word.length)
        if endsWord c.rest && !c.rest.isEmpty then
          (plainGap? indent (c.rest.length + 1) f c).bind fun (f, c) =>
            if !inFlow && c.column < indent then some (f, c)
            else plainWords? inFlow indent fuel f c
        else some (f, c)

/-- The plain scalar at a cursor. Its lines after the first are indented; in a flow collection also
the first is. -/
def plain? (inFlow : Bool) (indent : Int) (c : Cursor) : Option (String × Cursor) :=
  if inFlow && c.column < indent then none
  else
    (plainWords? inFlow indent (c.rest.length + 1) {} c).bind fun (f, c) =>
      if f.read.isEmpty then none else some (f.text, c)

/-! ### Quoted scalars -/

/-- The character that an escape letter stands for. -/
def simpleEscape? : Char → Option Char
  | '0' => some '\x00'
  | 'a' => some '\x07'
  | 'b' => some '\x08'
  | 't' | '\t' => some '\t'
  | 'n' => some '\n'
  | 'v' => some '\x0b'
  | 'f' => some '\x0c'
  | 'r' => some '\r'
  | 'e' => some '\x1b'
  | ' ' => some ' '
  | '"' => some '"'
  | '/' => some '/'
  | '\\' => some '\\'
  | 'N' => some '\u0085'
  | '_' => some '\u00a0'
  | 'L' => some '\u2028'
  | 'P' => some '\u2029'
  | _ => none

/-- How many hexadecimal digits follow an escape letter. -/
def codeLength? : Char → Option Nat
  | 'x' => some 2
  | 'u' => some 4
  | 'U' => some 8
  | _ => none

/-- The character of an escape after its backslash, and how many characters the escape has after
it. -/
def escape? : List Char → Option (Char × Nat)
  | [] => none
  | c :: cs =>
    match codeLength? c with
    | some count =>
      if cs.length < count then none
      else
        (Numeral.natural? 16 (cs.take count)).bind fun n =>
          if n.isValidChar then some (Char.ofNat n, count + 1) else none
    | none => (simpleEscape? c).map fun c => (c, 1)

/-- The word at the front of a quoted scalar, in reverse before what was already read, and whether
an escaped line end follows it. -/
def quotedWord? (single : Bool) (read : List Char) : Nat → Cursor →
    Option (List Char × Bool × Cursor)
  | 0, _ => none
  | fuel + 1, c =>
    match c.rest with
    | [] => some (read, false, c)
    | d :: cs =>
      if isBlank d || isBreak d then some (read, false, c)
      else if single then
        if d == '\'' then
          if cs.head? == some '\'' then quotedWord? single ('\'' :: read) fuel (c.step 2)
          else some (read, false, c)
        else quotedWord? single (d :: read) fuel (c.step 1)
      else if d == '"' then some (read, false, c)
      else if d == '\\' then
        if endsLine cs && !cs.isEmpty then some (read, true, (c.step 1).newLine)
        else
          (escape? cs).bind fun (e, count) =>
            quotedWord? single (e :: read) fuel (c.step (count + 1))
      else quotedWord? single (d :: read) fuel (c.step 1)

/-- The blanks and line ends after a word of a quoted scalar; `ended` says that a line has ended
since the word. -/
def quotedGap? (indent : Int) : Nat → Bool → Fold → Cursor → Option (Bool × Fold × Cursor)
  | 0, _, _, _ => none
  | fuel + 1, ended, f, c =>
    match c.rest with
    | [] => some (ended, f, c)
    | d :: _ =>
      if isBlank d then
        if ended then
          if d == '\t' && c.column < indent then none
          else quotedGap? indent fuel ended f (c.advance 1)
        else quotedGap? indent fuel ended { f with blanks := d :: f.blanks } (c.advance 1)
      else if isBreak d then quotedGap? indent fuel true (f.endLine !ended) c.newLine
      else some (ended, f, c)

/-- The words of a quoted scalar up to its closing quote. No mark of a document may stand in it,
and no line may start before the indentation. -/
def quotedWords? (single : Bool) (indent : Int) : Nat → Fold → Cursor → Option (Fold × Cursor)
  | 0, _, _ => none
  | fuel + 1, f, c =>
    if c.atMark || c.rest.isEmpty || c.column < indent then none
    else
      (quotedWord? single f.read (c.rest.length + 1) c).bind fun (read, escaped, c) =>
        let f := { f with read }
        if c.rest.head? == some (if single then '\'' else '"') then some (f, c.step 1)
        else
          (quotedGap? indent (c.rest.length + 1) escaped f c).bind fun (ended, f, c) =>
            quotedWords? single indent fuel (if ended then f.joinLines else f.joinBlanks) c

/-- A quoted scalar that started in a line may end here: at the end of the line, in front of what
goes on in a flow collection, or as a key. -/
def mayEnd (inFlow : Bool) (line : Nat) (c : Cursor) : Bool :=
  match c.rest with
  | [] => true
  | d :: _ =>
    isBreak d || (inFlow && (d == ',' || d == '\x7d' || d == ']'))
      || (d == ':' && (inFlow || line == c.line))

/-- The quoted scalar at a cursor. -/
def quoted? (inFlow single : Bool) (indent : Int) (c : Cursor) : Option (String × Cursor) :=
  (quotedWords? single indent (c.rest.length + 1) {} (c.step 1)).bind fun (f, after) =>
    after.afterBlanks?.bind fun after =>
      if mayEnd inFlow c.line after then some (f.text, after) else none

/-! ### Block scalars -/

/-- What becomes of the line ends at the end of a block. -/
inductive Chomping where
  | strip
  | clip
  | keep
deriving DecidableEq, Repr, Inhabited

/-- The chomping that a character stands for. -/
def chomping? : List Char → Option Chomping
  | '+' :: _ => some .keep
  | '-' :: _ => some .strip
  | _ => none

/-- An indentation of one digit, not zero, if there is one. -/
def increment? : List Char → Option (Option Nat)
  | [] => some none
  | c :: _ => if c == '0' then none else some (if c.isDigit then Numeral.digit? c else none)

/-- The chomping and the indentation at the start of a block, in either order. -/
def blockHeader? (c : Cursor) : Option (Chomping × Option Nat × Cursor) :=
  match chomping? c.rest with
  | some chomping =>
    let c := c.step 1
    (increment? c.rest).map fun increment =>
      (chomping, increment, if increment.isSome then c.step 1 else c)
  | none =>
    (increment? c.rest).map fun increment =>
      let c := if increment.isSome then c.step 1 else c
      match increment.bind fun _ => chomping? c.rest with
      | some chomping => (chomping, increment, c.step 1)
      | none => (.clip, increment, c)

/-- The cursor after the indentation of the next line that has more, and how many lines come
before it. -/
def skipIndent (indent : Nat) : Nat → Nat → Cursor → Nat × Cursor
  | 0, lines, c => (lines, c)
  | fuel + 1, lines, c =>
    let spaces := (c.rest.takeWhile (· == ' ')).length
    let c := c.advance (min spaces (indent - c.column))
    if endsLine c.rest && !c.rest.isEmpty then skipIndent indent fuel (lines + 1) c.newLine
    else (lines, c)

/-- The cursor at the first character of a block, how many empty lines come before it, and the
greatest indentation so far. -/
def firstIndent : Nat → Nat → Nat → Cursor → Nat × Nat × Cursor
  | 0, deepest, lines, c => (deepest, lines, c)
  | fuel + 1, deepest, lines, c =>
    let c := c.advance (c.rest.takeWhile (· == ' ')).length
    let deepest := max deepest c.column
    if endsLine c.rest && !c.rest.isEmpty then firstIndent fuel deepest (lines + 1) c.newLine
    else (deepest, lines, c)

/-- What was read of a block: its text in reverse, whether the last line has ended, how many empty
lines follow, and whether the last line started with a blank. -/
structure Lines where
  read : List Char := []
  ended : Bool := false
  more : Nat := 0
  blank : Bool := false

/-- The lines of a block. -/
def blockLines (literal : Bool) (indent : Nat) : Nat → Lines → Cursor → Lines × Cursor
  | 0, b, c => (b, c)
  | fuel + 1, b, c =>
    if c.rest.isEmpty || c.column != indent || (indent == 0 && endsDocument c.rest) then (b, c)
    else
      let blank := c.rest.head?.any isBlank
      let lines := List.replicate b.more '\n'
      let gap :=
        if !literal && b.ended && !b.blank && !blank then
          if b.more = 0 then [' '] else lines
        else if b.ended then lines ++ ['\n'] else lines
      let content := c.rest.takeWhile fun d => !isBreak d
      let c := c.advance content.length
      let read := content.reverse ++ gap ++ b.read
      if c.rest.isEmpty then ({ read, blank }, c)
      else
        let (more, c) := skipIndent indent c.rest.length 0 c.newLine
        blockLines literal indent fuel { read, ended := true, more, blank } c

/-- The block at a cursor, in a surrounding of some indentation. -/
def block? (literal : Bool) (indent : Int) (start : Cursor) : Option (String × Cursor) := do
  let (chomping, increment, c) ← blockHeader? (start.step 1)
  let c ← c.afterBlanks?
  guard (endsLine c.rest)
  let startBreaks := if c.rest.isEmpty then 0 else 1
  let c := c.newLine
  guard (c.rest.head? ≠ some '\t')
  let (own, more, c) :=
    match increment with
    | some n =>
      let own := n + indent.toNat
      let (more, c) := skipIndent own c.rest.length 0 c
      (own, more, c)
    | none =>
      let (deepest, more, c) := firstIndent (c.rest.length + 1) 0 0 c
      let own := max deepest (indent + 1).toNat
      (if 0 < indent then max own 1 else own, more, c)
  if c.rest.isEmpty then
    let breaks :=
      if chomping = .strip ∨ c.line = start.line then 0
      else if chomping = .keep ∧ more ≠ 0 then more
      else startBreaks
    some (String.ofList (List.replicate breaks '\n'), c)
  else
    guard (¬(c.column < own ∧ indent < c.column))
    let (b, c) := blockLines literal own (c.rest.length + 1) { more } c
    let last :=
      if chomping = .strip then 0
      else (if b.ended then 1 else 0) + (if c.rest.isEmpty ∧ max own 1 ≤ c.column then 1 else 0)
    let kept := if chomping = .keep then b.more else 0
    some (String.ofList (b.read.reverse ++ List.replicate (last + kept) '\n'), c)

end InterestMux.Yaml
