/-!
# Metrics

The instruments of a handler, and what was recorded with them.
-/

namespace InterestMux

/-- An instrument that records numbers. -/
inductive Instrument where
  | subscriptionsOpened
  | subscriptionsRejected
  | channelGenerations
  | channelReconnects
  | evictedInstances
  | evictionFailures
  | channelAge
deriving DecidableEq, Repr, Inhabited

/-- All recordings, oldest first. -/
structure Metrics where
  recordings : List (Instrument × Nat) := []
deriving DecidableEq, Inhabited

namespace Instrument

/-- All instruments, in the order in which they are created. -/
def every : List Instrument :=
  [subscriptionsOpened, subscriptionsRejected, channelGenerations, channelReconnects,
    evictedInstances, evictionFailures, channelAge]

/-- Whether the instrument adds up what it records; it shows the last value otherwise. -/
def isCounter : Instrument → Bool
  | channelAge => false
  | _ => true

/-- The name of an instrument. -/
def name : Instrument → String
  | subscriptionsOpened => "registry_interest.subscriptions.opened"
  | subscriptionsRejected => "registry_interest.subscriptions.rejected"
  | channelGenerations => "registry_interest.channel.generations"
  | channelReconnects => "registry_interest.channel.reconnects"
  | evictedInstances => "registry_interest.eviction.instances"
  | evictionFailures => "registry_interest.eviction.failures"
  | channelAge => "registry_interest.channel.age"

/-- What an instrument measures. -/
def description : Instrument → String
  | subscriptionsOpened => "Number of interest streams handed out"
  | subscriptionsRejected => "Number of interest requests refused after shutdown"
  | channelGenerations => "Number of interest channels established"
  | channelReconnects => "Number of scheduled reconnect attempts"
  | evictedInstances => "Registry entries evicted after a channel change"
  | evictionFailures => "Number of failed eviction rounds"
  | channelAge => "Time since the live channel was established in seconds"

/-- The unit of what an instrument measures. -/
def unit? : Instrument → Option String
  | channelAge => some "s"
  | _ => none

end Instrument

namespace Metrics

/-- Records a number with an instrument. -/
def record (m : Metrics) (i : Instrument) (n : Nat) : Metrics :=
  ⟨m.recordings ++ [(i, n)]⟩

/-- The numbers recorded with an instrument. -/
def recorded (m : Metrics) (i : Instrument) : List Nat :=
  (m.recordings.filter fun r => r.1 == i).map (·.2)

/-- How often an instrument was used. -/
def count (m : Metrics) (i : Instrument) : Nat :=
  (m.recorded i).length

/-- The sum of the numbers recorded with an instrument. -/
def total (m : Metrics) (i : Instrument) : Nat :=
  (m.recorded i).foldr (· + ·) 0

end Metrics

end InterestMux
