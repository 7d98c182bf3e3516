import InterestMux.Document.Yaml.Cursor
import InterestMux.Document.Yaml.Token
import InterestMux.Text.Numeral

/-!
# Anchors, tags and directives of YAML

`name?` reads the name of an anchor or an alias, `tag?` a tag, and `directive?` a directive, each
from the cursor at its first character.
-/

namespace InterestMux.Yaml

/-- A character of the name of an anchor. -/
def isAnchorChar (c : Char) : Bool :=
  !(isBlank c || isBreak c || isFlow c || c == '\ufeff')

/-- A character of the text that a tag or a handle stands for. -/
def isUriChar (c : Char) : Bool :=
  c.isAlphanum || "-#;/?:@&=+$,_.!~*'()[]%".toList.contains c

/-- A character of a tag after its handle. -/
def isTagChar (c : Char) : Bool :=
  isUriChar c && !isFlow c && c != '!'

/-- The longest name that starts after the first character at a cursor. -/
def name? (c : Cursor) : Option (String × Cursor) :=
  let c := c.step 1
  let name := c.rest.takeWhile isAnchorChar
  if name.isEmpty then none else some (String.ofList name, c.step name.length)

/-! ### Tags -/

/-- The byte that a percent sign and two hexadecimal digits stand for. -/
def escapedByte? : List Char → Option (Nat × List Char)
  | '%' :: a :: b :: cs => (Numeral.natural? 16 [a, b]).map fun n => (n, cs)
  | _ => none

/-- How many bytes a character has that starts with a byte. -/
def byteCount? (byte : Nat) : Option Nat :=
  if byte < 0x80 then some 1
  else if byte / 0x20 = 6 then some 2
  else if byte / 0x10 = 14 then some 3
  else if byte / 0x8 = 30 then some 4
  else none

/-- The number that the further bytes of a character make with those before them. -/
def furtherBytes? (code : Nat) : Nat → List Char → Option Nat
  | 0, _ => some code
  | count + 1, cs =>
    (escapedByte? cs).bind fun (byte, cs) =>
      if byte / 0x40 = 2 then furtherBytes? (0x100 * code + byte) count cs else none

/-- The character that escaped bytes stand for, and how many characters they take. Its code point
is the number that the bytes make. -/
def escapedChar? (cs : List Char) : Option (Char × Nat) := do
  let (byte, rest) ← escapedByte? cs
  let count ← byteCount? byte
  let code ← furtherBytes? byte (count - 1) rest
  if code.isValidChar then some (Char.ofNat code, 3 * count) else none

/-- The longest text of some characters, bytes in it escaped or not. -/
def uri? (isPart : Char → Bool) (read : List Char) : Nat → Cursor → Option (List Char × Cursor)
  | 0, _ => none
  | fuel + 1, c =>
    match c.rest with
    | [] => some (read.reverse, c)
    | d :: _ =>
      if !isPart d then some (read.reverse, c)
      else if d == '%' then
        (escapedChar? c.rest).bind fun (e, count) => uri? isPart (e :: read) fuel (c.step count)
      else uri? isPart (d :: read) fuel (c.step 1)

/-- A handle: an exclamation mark, and a name with another one if there is one. -/
def handle? (c : Cursor) : Option (List Char × Cursor) :=
  if c.rest.head? ≠ some '!' then none
  else
    let c := c.step 1
    let name := c.rest.takeWhile isNameChar
    let c := c.step name.length
    match c.rest with
    | '!' :: _ => some ('!' :: name ++ ['!'], c.step 1)
    | _ => some ('!' :: name, c)

/-- A tag that is written out between angle brackets. -/
def verbatim? (c : Cursor) : Option (Token × Cursor) :=
  (uri? isUriChar [] (c.rest.length + 1) (c.step 2)).bind fun (text, c) =>
    match c.rest with
    | '>' :: _ => some (.tag "" (String.ofList text), c.step 1)
    | _ => none

/-- A tag made of a handle and what follows it. A handle without its second mark belongs to what
follows. -/
def shorthand? (c : Cursor) : Option (Token × Cursor) := do
  let (handle, c) ← handle? c
  if 2 ≤ handle.length ∧ handle.getLast? = some '!' then
    let (suffix, after) ← uri? isTagChar [] (c.rest.length + 1) c
    guard (after.index ≠ c.index)
    some (.tag (String.ofList handle) (String.ofList suffix), after)
  else
    let (suffix, c) ← uri? isTagChar [] (c.rest.length + 1) c
    let suffix := handle.tail ++ suffix
    some (if suffix.isEmpty then .tag "" "!" else .tag "!" (String.ofList suffix), c)

/-- The tag at a cursor. A blank, a line end or a character of a flow collection follows it. -/
def tag? (inFlow : Bool) (c : Cursor) : Option (Token × Cursor) :=
  let tag := match c.rest with
    | '!' :: '<' :: _ => verbatim? c
    | _ => shorthand? c
  tag.bind fun (t, c) =>
    if endsWord c.rest || (inFlow && startsFlow c.rest) then some (t, c) else none

/-! ### Directives -/

/-- The cursor after blanks, but not after a comment. -/
def afterSpace (c : Cursor) : Cursor :=
  c.advance (c.rest.takeWhile isBlank).length

/-- A number of at most nine digits. -/
def versionNumber? (c : Cursor) : Option Cursor :=
  let digits := c.rest.takeWhile Char.isDigit
  if digits.isEmpty ∨ 9 < digits.length then none else some (c.step digits.length)

/-- Two numbers with a point between them. -/
def version? (c : Cursor) : Option (Token × Cursor) := do
  let c ← versionNumber? (afterSpace c)
  guard (c.rest.head? = some '.')
  let c ← versionNumber? (c.step 1)
  some (.version, c)

/-- The text that a handle stands for. -/
def meaning? (c : Cursor) : Option (List Char × Cursor) :=
  match c.rest with
  | '!' :: _ => uri? isUriChar ['!'] (c.rest.length + 1) (c.step 1)
  | d :: _ => if isTagChar d then uri? isUriChar [] (c.rest.length + 1) c else none
  | [] => none

/-- A handle and the text that it stands for. -/
def handleMeaning? (c : Cursor) : Option (Token × Cursor) := do
  let (handle, c) ← handle? (afterSpace c)
  guard (handle = ['!'] ∨ (2 ≤ handle.length ∧ handle.getLast? = some '!'))
  let (meaning, c) ← meaning? (afterSpace c)
  guard (endsWord c.rest)
  some (.handle (String.ofList handle) (String.ofList meaning), c)

/-- The directive at a cursor, up to the end of its line. One that is not known stands for a handle
without a name. -/
def directive? (c : Cursor) : Option (Token × Cursor) := do
  let c := c.step 1
  let name := c.rest.takeWhile isNameChar
  let c := c.step name.length
  guard (¬name.isEmpty ∧ endsWord c.rest)
  let (token, c) ←
    match String.ofList name with
    | "YAML" => version? c
    | "TAG" => handleMeaning? c
    | _ => some (.handle "" "", c.step (c.rest.takeWhile fun d => !isBreak d).length)
  let c ← c.afterBlanks?
  if endsLine c.rest then some (token, c.newLine) else none

end InterestMux.Yaml
