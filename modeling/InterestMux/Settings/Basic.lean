import InterestMux.Document.Basic
import InterestMux.Failure
import InterestMux.Lifecycle

/-!
# Settings

What can be set about a handler, the defaults, and which settings a handler can run with.
-/

namespace InterestMux

/-- The settings of a handler. -/
structure Settings where
  /-- The wait between attempts to connect, in milliseconds. -/
  retryWaitMillis : UInt64 := 500
  /-- How many failures in a row end the attempts; they go on forever if unset. -/
  maxReconnectAttempts : Option UInt32 := none
  /-- How many notifications are buffered for one subscriber. -/
  streamBuffer : UInt64 := 256
  /-- How many announced channels an observer may fall behind. -/
  channelHistory : UInt64 := 16
deriving DecidableEq, Inhabited

/-- One of the settings. -/
inductive Setting where
  | retryWaitMillis
  | maxReconnectAttempts
  | streamBuffer
  | channelHistory
deriving DecidableEq, Repr, Inhabited

namespace Setting

/-- The key of a setting in a document. -/
def key : Setting → String
  | retryWaitMillis => "retry_wait_ms"
  | maxReconnectAttempts => "max_reconnect_attempts"
  | streamBuffer => "stream_buffer"
  | channelHistory => "channel_history"

/-- All settings, in their order in a list of values. -/
def every : List Setting :=
  [retryWaitMillis, maxReconnectAttempts, streamBuffer, channelHistory]

end Setting

namespace Settings

/-- The first of the faults that rule the settings out. -/
def validate (s : Settings) : Except SettingsFault Unit :=
  if s.streamBuffer = 0 then .error .emptyBuffer
  else if s.channelHistory = 0 then .error .emptyHistory
  else if s.maxReconnectAttempts = some 0 then .error .noAttempts
  else .ok ()

/-- The wait between attempts to connect. -/
def retryWait (s : Settings) : Span :=
  .ofMillis s.retryWaitMillis.toNat

/-- The retry policy that the settings describe. -/
def retryPolicy (s : Settings) : RetryPolicy :=
  { delay := s.retryWait, maxAttempts := s.maxReconnectAttempts }

/-- The wait in whole milliseconds, in a 64-bit word. -/
def withRetryWait (s : Settings) (wait : Span) : Settings :=
  { s with retryWaitMillis := UInt64.ofNat wait.wholeMillis }

/-- Puts the value of a document into one setting, without any conversion. -/
def put? (s : Settings) (field : Setting) (value : Document) : Option Settings :=
  match field with
  | .retryWaitMillis => value.word64?.map fun n => { s with retryWaitMillis := n }
  | .streamBuffer => value.word64?.map fun n => { s with streamBuffer := n }
  | .channelHistory => value.word64?.map fun n => { s with channelHistory := n }
  | .maxReconnectAttempts =>
    match value with
    | .null => some { s with maxReconnectAttempts := none }
    | value => value.word32?.map fun n => { s with maxReconnectAttempts := some n }

/-- Puts the values of a map into the settings they name. -/
def putEntries? (s : Settings) (entries : List (String × Document)) :
    List Setting → Option Settings
  | [] => some s
  | field :: fields =>
    match Document.lookup? field.key entries with
    | some value => (s.put? field value).bind fun s => s.putEntries? entries fields
    | none => s.putEntries? entries fields

/-- Puts values into the settings in their order, no more than there are settings. -/
def putItems? (s : Settings) : List Setting → List Document → Option Settings
  | _, [] => some s
  | [], _ :: _ => none
  | field :: fields, value :: values =>
    (s.put? field value).bind fun s => s.putItems? fields values

/-- The settings that a document stands for: a map, where other keys do not count, or a list of
values in order. What is missing keeps its default. -/
def ofDocument? : Document → Option Settings
  | .map entries => ({} : Settings).putEntries? entries Setting.every
  | .list items => ({} : Settings).putItems? Setting.every items
  | _ => none

end Settings

end InterestMux
