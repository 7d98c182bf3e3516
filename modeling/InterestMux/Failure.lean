/-!
# Failures

Why an operation failed, as a cause. `Failure.message` is the only place where the wording lives.
-/

namespace InterestMux

/-- Settings that no handler can run with. -/
inductive SettingsFault where
  | emptyBuffer
  | emptyHistory
  | noAttempts
deriving DecidableEq, Repr, Inhabited

/-- Why an operation failed. -/
inductive Failure where
  | shutDown
  | channelCreation (reason : String)
  | channelFailure (reason : String)
  | channelCompleted
  | changeRejected (reason : String)
  | eviction (reason : String)
  | connectionExhausted (attempts : UInt32)
  | registry (reason : String)
  | settings (reason : String)
  | invalidSettings (fault : SettingsFault)
  | other (reason : String)
deriving DecidableEq, Inhabited

namespace SettingsFault

/-- The setting at fault. -/
def field : SettingsFault → String
  | emptyBuffer => "stream_buffer"
  | emptyHistory => "channel_history"
  | noAttempts => "max_reconnect_attempts"

/-- What the setting has to satisfy. -/
def requirement : SettingsFault → String
  | emptyBuffer => "must be greater than zero"
  | emptyHistory => "must be greater than zero"
  | noAttempts => "must allow at least one attempt"

end SettingsFault

namespace Failure

/-- The text of a failure. -/
def message : Failure → String
  | shutDown => "InterestHandler has shut down"
  | channelCreation reason => "Failed to create interest channel: " ++ reason
  | channelFailure reason => "Interest channel failed: " ++ reason
  | channelCompleted => "Interest channel completed unexpectedly"
  | changeRejected reason => "Interest update rejected: " ++ reason
  | eviction reason => "Eviction failed: " ++ reason
  | connectionExhausted attempts =>
    "Reconnect attempts exhausted after " ++ toString attempts.toNat ++ " attempts"
  | registry reason => "Registry error: " ++ reason
  | settings reason => "Failed to load configuration: " ++ reason
  | invalidSettings fault =>
    "Invalid configuration: " ++ fault.field ++ " " ++ fault.requirement
  | other reason => "Interest error: " ++ reason

end Failure

end InterestMux
