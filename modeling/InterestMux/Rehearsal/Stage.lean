import InterestMux.Connection.Basic

/-!
# Stages

A stage plays the collaborators of a reconnect loop from a script: the factory of channels, the
sessions, and the clock. Time is virtual and counted in milliseconds; it moves only when somebody
lets it. Everything that happens is written down with its time.

## Main definitions

* `Cue` : how one request for a channel is played.
* `Mode` : what a session does with an operand.
* `Stage`, `Stage.react` : what the stage does about an event of the loop.
* `Stage.isReady`, `Stage.proceed` : how the pending call of the loop goes on.
-/

namespace InterestMux

/-- What a session does with an operand. -/
inductive Mode where
  | accept
  | reject (reason : Failure)
  /-- Takes it after so many milliseconds. -/
  | slow (millis : Nat)
  /-- Breaks down. -/
  | breaks
  /-- Waits until the mode is set again. -/
  | stall
deriving DecidableEq, Inhabited

/-- How one request for a channel is played. -/
structure Cue where
  /-- The request is never answered. -/
  hangs : Bool := false
  /-- The answer takes so many milliseconds. -/
  wait : Option Nat := none
  /-- The factory breaks down. -/
  breaks : Bool := false
  /-- The request is refused. -/
  refusal : Option Failure := none
  /-- The source of the channel, if it is not the usual one. -/
  source : Option (Option Source) := none
  /-- What the session does with operands at first. -/
  mode : Mode := .accept
  /-- How the session has ended before it is handed out. -/
  ended : Option SessionEnd := none
deriving Inhabited

/-- A session on the stage. -/
structure Session where
  mode : Mode
  /-- How often the mode was set. -/
  modeVersion : Nat := 0
  ended : Option SessionEnd := none
deriving Inhabited

/-- A point in time to wait for. Timers of one time go off in the order of their numbers. -/
structure Timer where
  due : Nat
  number : Nat
deriving DecidableEq, Inhabited

/-- How far the call of the loop has come. -/
inductive Pending where
  /-- There is no call. -/
  | idle
  /-- It is never answered. -/
  | hanging
  /-- The request for a channel goes on at a time. -/
  | waiting (cue : Cue) (timer : Timer)
  /-- The operand is taken at a time. -/
  | slow (c : Channel) (operand : String) (timer : Timer)
  /-- The operand waits for another mode than the one set so many times before. -/
  | stalled (c : Channel) (operand : String) (version : Nat)
  /-- The rest ends at a time. -/
  | resting (timer : Timer)
  /-- The answer is there. -/
  | ready (reply : Loop.Reply)
deriving Inhabited

/-- Who writes a line. -/
inductive Group where
  | connection
  | eviction
  | lifecycle
  | main
deriving DecidableEq, Repr, Inhabited

/-- What the caller tells the stage. A session without a number is the newest. -/
inductive Direction where
  | endSession (session : Option Nat) (ending : SessionEnd)
  | setMode (session : Option Nat) (mode : Mode)
  /-- More cues at the end of the script. -/
  | append (cues : List Cue)
  /-- The cue to play once the script is through. -/
  | fallBack (cue : Cue)
deriving Inhabited

/-- The collaborators of a reconnect loop. -/
structure Stage where
  now : Nat := 0
  /-- How many timers were set. -/
  timers : Nat := 0
  script : List Cue := []
  fallback : Cue := {}
  sessions : List Session := []
  pending : Pending := .idle
  lines : List (Group × String) := []
deriving Inhabited

namespace Stage

/-! ### Writing and time -/

/-- Writes a line with the time. -/
def write (s : Stage) (g : Group) (line : String) : Stage :=
  { s with lines := s.lines ++ [(g, toString s.now ++ " " ++ line)] }

/-- Writes the entry, if there is one. -/
def note (s : Stage) (g : Group) (entry : Option Entry) : Stage :=
  match entry with
  | some entry => s.write g entry.text
  | none => s

/-- The longest rest: thirty years. -/
def longestRest : Nat := 30 * 365 * 86400 * 1000

/-- Sets a timer so many milliseconds from now, or at the end of the longest rest if that is
sooner. -/
def setTimer (s : Stage) (millis : Nat) : Timer × Stage :=
  (⟨s.now + min millis longestRest, s.timers⟩, { s with timers := s.timers + 1 })

/-- The timer that the pending call waits for. -/
def timer? (s : Stage) : Option Timer :=
  match s.pending with
  | .waiting _ t | .slow _ _ t | .resting t => some t
  | _ => none

/-! ### Sessions -/

/-- A session by its number. -/
def session? (s : Stage) (number : Nat) : Option Session :=
  s.sessions[number]?

/-- How a session ended, if it did. -/
def ended? (s : Stage) (c : Channel) : Option SessionEnd :=
  (s.session? c.number).bind (·.ended)

/-- How often the mode of a session was set. -/
def modeVersion (s : Stage) (c : Channel) : Nat :=
  ((s.session? c.number).map (·.modeVersion)).getD 0

/-- Changes a session. -/
def modify (s : Stage) (number : Nat) (f : Session → Session) : Stage :=
  { s with sessions := s.sessions.modify number f }

/-- Sets what a session does with operands. -/
def setMode (s : Stage) (number : Nat) (mode : Mode) : Stage :=
  s.modify number fun x => { x with mode, modeVersion := x.modeVersion + 1 }

/-- Ends a session. -/
def endSession (s : Stage) (number : Nat) (ending : SessionEnd) : Stage :=
  s.modify number fun x => { x with ended := some ending }

/-! ### Calls of the loop -/

/-- Plays a request for a channel once the time for it has come. -/
def create (s : Stage) (cue : Cue) : Stage :=
  if cue.breaks then { s.write .connection "create panics" with pending := .ready .broke }
  else
    match cue.refusal with
    | some reason => { s.write .connection "create fails" with pending := .ready (.refused reason) }
    | none =>
      let number := s.sessions.length
      let usual : Source := ⟨.interested, some "server", UInt64.ofNat (number + 1)⟩
      let c : Channel := ⟨number, cue.source.getD (some usual)⟩
      let s := s.write .connection ("create #" ++ toString number)
      { s with
        sessions := s.sessions ++ [{ mode := cue.mode, ended := cue.ended }]
        pending := .ready (.created c) }

/-- Plays the next cue. -/
def request (s : Stage) : Stage :=
  let cue := s.script.headD s.fallback
  let s := { s with script := s.script.tail }
  if cue.hangs then { s.write .connection "create hangs" with pending := .hanging }
  else
    match cue.wait with
    | none => s.create cue
    | some millis =>
      let (timer, s) := (s.write .connection "create waits").setTimer millis
      { s with pending := .waiting cue timer }

/-- Plays what a session does with an operand. A stall is written once for an operand. -/
def bind (s : Stage) (c : Channel) (operand : String) (again : Bool) : Stage :=
  let told (word : String) : Stage :=
    s.write .connection (word ++ " #" ++ toString c.number ++ ": " ++ operand)
  match ((s.session? c.number).map (·.mode)).getD .accept with
  | .accept => { told "apply" with pending := .ready .applied }
  | .reject reason => { told "reject" with pending := .ready (.rejected reason) }
  | .slow millis =>
    let (timer, s) := (told "slow").setTimer millis
    { s with pending := .slow c operand timer }
  | .breaks => { told "panic" with pending := .ready .broke }
  | .stall =>
    { (if again then s else told "stall") with
      pending := .stalled c operand (s.modeVersion c) }

/-- What the stage does about an event of the loop. -/
def react {T : Type} (text : T → String) (s : Stage) (e : Loop.Event T) : Stage :=
  let s := s.note .connection e.entry?
  match e with
  | .requested => s.request
  | .bound c operand _ => s.bind c (text operand) false
  | .releasing c =>
    { s.write .connection ("close #" ++ toString c.number) with pending := .ready .released }
  | .rested d =>
    let (timer, s) := s.setTimer d.ceilMillis
    { s with pending := .resting timer }
  | _ => s

/-- The pending call can go on. -/
def isReady (s : Stage) : Bool :=
  match s.pending with
  | .idle | .hanging => false
  | .waiting _ t | .slow _ _ t | .resting t => t.due ≤ s.now
  | .stalled c _ version => s.modeVersion c != version
  | .ready _ => true

/-- Goes on with the pending call, and gives its answer if it has come to that. -/
def proceed (s : Stage) : Option Loop.Reply × Stage :=
  match s.pending with
  | .idle | .hanging => (none, s)
  | .waiting cue _ => (none, s.create cue)
  | .slow c operand _ =>
    (some .applied,
      { s.write .connection ("apply #" ++ toString c.number ++ ": " ++ operand) with
        pending := .idle })
  | .stalled c operand _ => (none, s.bind c operand true)
  | .resting _ => (some .elapsed, { s with pending := .idle })
  | .ready reply => (some reply, { s with pending := .idle })

/-! ### Directions -/

/-- A session by the given number, or else the newest. -/
def target? (s : Stage) (session : Option Nat) : Option Nat :=
  let number := session.getD (s.sessions.length - 1)
  if number < s.sessions.length then some number else none

/-- Follows a direction, unless there is no session to follow it. -/
def direct? (s : Stage) : Direction → Option Stage
  | .endSession session ending => (s.target? session).map fun n => s.endSession n ending
  | .setMode session mode => (s.target? session).map fun n => s.setMode n mode
  | .append cues => some { s with script := s.script ++ cues }
  | .fallBack cue => some { s with fallback := cue }

end Stage

/-- What is missing for a step of a caller. -/
inductive Missing where
  | dropped
  | session
  | observer
  | watcher
  | stream
deriving DecidableEq, Repr, Inhabited

/-- The name of what is missing. -/
def Missing.text : Missing → String
  | dropped => "dropped"
  | session => "no session"
  | observer => "no observer"
  | watcher => "no watch"
  | stream => "no stream"

end InterestMux
