import InterestMux.Text.Numeral

/-!
# Quoted strings of TOML

A string stands between quotes, with escapes, or between apostrophes, without. Between three of
them it may have several lines: the line end after the opening ones does not count, and every other
is a line feed.
-/

namespace InterestMux.Toml

/-- A character that a string of one line may hold, quotes and backslashes apart. -/
def isTextChar (c : Char) : Bool :=
  c == '\t' || (0x20 ≤ c.toNat && c.toNat != 0x7f)

/-- A blank within a line. -/
def isBlank (c : Char) : Bool :=
  c == ' ' || c == '\t'

/-- What follows the blanks at the front. -/
def skip (cs : List Char) : List Char :=
  cs.dropWhile isBlank

/-- What follows a line end. -/
def lineEnd? : List Char → Option (List Char)
  | '\n' :: cs => some cs
  | '\r' :: '\n' :: cs => some cs
  | _ => none

/-- The character that an escape letter stands for. -/
def simpleEscape? : Char → Option Char
  | '"' => some '"'
  | '\\' => some '\\'
  | 'b' => some '\x08'
  | 'f' => some '\x0c'
  | 'n' => some '\n'
  | 'r' => some '\r'
  | 't' => some '\t'
  | _ => none

/-- The character with the code point that a number of hexadecimal digits gives. -/
def codePoint? (count : Nat) (cs : List Char) : Option (Char × List Char) :=
  if cs.length < count then none
  else
    match Numeral.natural? 16 (cs.take count) with
    | some n => if n.isValidChar then some (Char.ofNat n, cs.drop count) else none
    | none => none

/-- The character of an escape after its backslash. -/
def escape? : List Char → Option (Char × List Char)
  | 'u' :: cs => codePoint? 4 cs
  | 'U' :: cs => codePoint? 8 cs
  | c :: cs => (simpleEscape? c).map fun c => (c, cs)
  | [] => none

/-- The rest of a string of one line after its opening quote. -/
def line? (quote : Char) (read : List Char) : Nat → List Char → Option (String × List Char)
  | 0, _ => none
  | _ + 1, [] => none
  | fuel + 1, c :: cs =>
    if c == quote then some (String.ofList read.reverse, cs)
    else if c == '\\' && quote == '"' then
      (escape? cs).bind fun (c, cs) => line? quote (c :: read) fuel cs
    else if isTextChar c then line? quote (c :: read) fuel cs
    else none

/-- What follows the blanks and line ends at the front. -/
def skipBlankLines : Nat → List Char → List Char
  | 0, cs => cs
  | fuel + 1, cs =>
    match lineEnd? (skip cs) with
    | some rest => skipBlankLines fuel rest
    | none => skip cs

/-- The rest of a string of several lines after its opening quotes. One or two quotes may stand
anywhere in it, also before the three that close it. A backslash at the end of a line takes the
blanks and line ends after it away. -/
def lines? (quote : Char) (read : List Char) : Nat → List Char → Option (String × List Char)
  | 0, _ => none
  | _ + 1, [] => none
  | fuel + 1, c :: cs =>
    if c == quote then
      let quotes := (c :: cs).takeWhile (· == quote)
      if 3 ≤ quotes.length then
        let inside := min (quotes.length - 3) 2
        some (String.ofList (List.replicate inside quote ++ read).reverse,
          (c :: cs).drop (inside + 3))
      else lines? quote (quotes ++ read) fuel ((c :: cs).drop quotes.length)
    else if c == '\\' && quote == '"' then
      match lineEnd? (skip cs) with
      | some rest => lines? quote read fuel (skipBlankLines rest.length rest)
      | none => (escape? cs).bind fun (c, cs) => lines? quote (c :: read) fuel cs
    else
      match lineEnd? (c :: cs) with
      | some rest => lines? quote ('\n' :: read) fuel rest
      | none => if isTextChar c then lines? quote (c :: read) fuel cs else none

/-- A string of one line. -/
def shortString? : List Char → Option (String × List Char)
  | [] => none
  | c :: cs => if c == '"' || c == '\'' then line? c [] (cs.length + 1) cs else none

/-- A string of one or several lines. -/
def string? : List Char → Option (String × List Char)
  | a :: b :: c :: cs =>
    if a == b && b == c && (a == '"' || a == '\'') then
      lines? a [] (cs.length + 1) ((lineEnd? cs).getD cs)
    else shortString? (a :: b :: c :: cs)
  | cs => shortString? cs

end InterestMux.Toml
