import InterestMux.Span

/-!
# Connection lifecycle

The retry policy of a connection and the states that the connection publishes.
-/

namespace InterestMux

/-- How long to wait before another attempt, and how many failures in a row end the attempts. -/
structure RetryPolicy where
  delay : Span := .ofMillis 500
  maxAttempts : Option UInt32 := none
deriving DecidableEq, Inhabited

/-- The published state of a connection. -/
inductive ConnectionState where
  | idle
  | connecting (attempt : UInt32)
  | connected (generation : Nat)
  | backoff (attempt : UInt32) (delay : Span) (reason : String)
  | exhausted (attempts : UInt32)
  | closed
deriving DecidableEq, Inhabited

/-- Another attempt follows the given number of failures in a row. -/
def RetryPolicy.shouldRetry (policy : RetryPolicy) (failures : UInt32) : Bool :=
  match policy.maxAttempts with
  | none => true
  | some bound => failures < bound

namespace ConnectionState

/-- Nothing follows the state. -/
def isTerminal : ConnectionState → Bool
  | exhausted _ | closed => true
  | _ => false

/-- A channel is established. -/
def isConnected : ConnectionState → Bool
  | connected _ => true
  | _ => false

/-- The text of a state. -/
def text : ConnectionState → String
  | idle => "idle"
  | connecting attempt => "connecting (attempt " ++ toString attempt.toNat ++ ")"
  | connected generation => "connected (generation " ++ toString generation ++ ")"
  | backoff attempt delay _ =>
    "backing off " ++ delay.text ++ " after " ++ toString attempt.toNat ++ " failures"
  | exhausted attempts => "exhausted after " ++ toString attempts.toNat ++ " attempts"
  | closed => "closed"

end ConnectionState

end InterestMux
