import InterestMux.Text.Numeral

/-!
# Dates and times

A moment is a date, a time of day, or both, with an offset from universal time if it has both.
`Moment.read?` reads one at the front of a text, and `Moment.text` writes it.
-/

namespace InterestMux

/-- A day of the calendar. -/
structure Date where
  year : Nat
  month : Nat
  day : Nat
deriving DecidableEq, Repr, Inhabited

/-- A time of day. -/
structure TimeOfDay where
  hour : Nat
  minute : Nat
  second : Nat
  nanos : Nat
deriving DecidableEq, Repr, Inhabited

/-- An offset from universal time. -/
inductive Offset where
  | universal
  | minutes (count : Int)
deriving DecidableEq, Repr, Inhabited

/-- A date, a time of day, or both. -/
inductive Moment where
  | date (d : Date)
  | time (t : TimeOfDay)
  | both (d : Date) (t : TimeOfDay) (offset : Option Offset)
deriving DecidableEq, Repr, Inhabited

namespace Moment

/-! ### Reading -/

/-- A number of so many digits. -/
def fixed? (count : Nat) (cs : List Char) : Option (Nat × List Char) :=
  let digits := cs.take count
  if digits.length = count ∧ digits.all Char.isDigit then
    (Numeral.natural? 10 digits).map fun n => (n, cs.drop count)
  else none

/-- What follows a character at the front of a text. -/
def after? (c : Char) : List Char → Option (List Char)
  | d :: cs => if d == c then some cs else none
  | [] => none

/-- The days of a month. -/
def daysOf (year month : Nat) : Nat :=
  if month = 2 then
    if year % 4 = 0 ∧ (year % 100 ≠ 0 ∨ year % 400 = 0) then 29 else 28
  else if month = 4 ∨ month = 6 ∨ month = 9 ∨ month = 11 then 30
  else 31

/-- A date: year, month and day with hyphens between them. -/
def date? (cs : List Char) : Option (Date × List Char) := do
  let (year, cs) ← fixed? 4 cs
  let (month, cs) ← fixed? 2 (← after? '-' cs)
  let (day, cs) ← fixed? 2 (← after? '-' cs)
  if 1 ≤ month ∧ month ≤ 12 ∧ 1 ≤ day ∧ day ≤ daysOf year month then
    some (⟨year, month, day⟩, cs)
  else none

/-- A fraction of a second after its point, cut after nine places. -/
def fraction (cs : List Char) : Nat × List Char :=
  match cs with
  | '.' :: rest =>
    let (digits, after) := Numeral.spanDigits rest
    let kept := digits.take 9
    match Numeral.natural? 10 kept with
    | some n => (n * Nat.pow 10 (9 - kept.length), after)
    | none => (0, cs)
  | _ => (0, cs)

/-- A time of day: hour, minute and second with colons between them. -/
def time? (cs : List Char) : Option (TimeOfDay × List Char) := do
  let (hour, cs) ← fixed? 2 cs
  let (minute, cs) ← fixed? 2 (← after? ':' cs)
  let (second, cs) ← fixed? 2 (← after? ':' cs)
  let (nanos, cs) := fraction cs
  if hour ≤ 23 ∧ minute ≤ 59 ∧ second ≤ 60 then some (⟨hour, minute, second, nanos⟩, cs)
  else none

/-- Hours and minutes of an offset, as minutes. -/
def span? (cs : List Char) : Option (Nat × List Char) := do
  let (hour, cs) ← fixed? 2 cs
  let (minute, cs) ← fixed? 2 (← after? ':' cs)
  if hour ≤ 23 ∧ minute ≤ 59 then some (60 * hour + minute, cs) else none

/-- The offset at the front of a text, if there is one. -/
def offset (cs : List Char) : Option Offset × List Char :=
  match cs with
  | [] => (none, cs)
  | c :: rest =>
    if c == 'Z' || c == 'z' then (some .universal, rest)
    else if c == '+' || c == '-' then
      match span? rest with
      | some (n, rest) => (some (.minutes (if c == '-' then -(n : Int) else n)), rest)
      | none => (none, cs)
    else (none, cs)

/-- A moment at the front of a text. The time follows the date after a letter or a space. -/
def read? (cs : List Char) : Option (Moment × List Char) :=
  match date? cs with
  | none => (time? cs).map fun (t, rest) => (.time t, rest)
  | some (d, rest) =>
    let time := match rest with
      | c :: cs => if c == 'T' || c == 't' || c == ' ' then time? cs else none
      | [] => none
    match time with
    | none => some (.date d, rest)
    | some (t, rest) =>
      let (o, rest) := offset rest
      some (.both d t o, rest)

/-! ### Writing -/

/-- A number with zeros in front up to a width. -/
def padded (width n : Nat) : String :=
  let digits := Nat.toDigits 10 n
  String.ofList (List.replicate (width - digits.length) '0' ++ digits)

/-- The text of a date. -/
def dateText (d : Date) : String :=
  padded 4 d.year ++ "-" ++ padded 2 d.month ++ "-" ++ padded 2 d.day

/-- The text of a time of day, without zeros at the end of its fraction. -/
def timeText (t : TimeOfDay) : String :=
  let places := ((padded 9 t.nanos).toList.reverse.dropWhile (· == '0')).reverse
  padded 2 t.hour ++ ":" ++ padded 2 t.minute ++ ":" ++ padded 2 t.second
    ++ (if places.isEmpty then "" else "." ++ String.ofList places)

/-- The text of an offset. -/
def offsetText : Offset → String
  | .universal => "Z"
  | .minutes n =>
    (if n < 0 then "-" else "+") ++ padded 2 (n.natAbs / 60) ++ ":" ++ padded 2 (n.natAbs % 60)

/-- The text of a moment. -/
def text : Moment → String
  | .date d => dateText d
  | .time t => timeText t
  | .both d t offset => dateText d ++ "T" ++ timeText t ++ (offset.map offsetText).getD ""

end Moment

end InterestMux
