import InterestMux.Failure
import InterestMux.Source

/-!
# Channels

A channel carries operands to the remote side. Its session ends on its own, complete or broken.
-/

namespace InterestMux

/-- A channel, known by its number, and the source of what arrives over it. -/
structure Channel where
  number : Nat
  source : Option Source := none
deriving DecidableEq, Inhabited

/-- How the session of a channel ended. -/
inductive SessionEnd where
  | completed
  | broken (reason : Failure)
deriving DecidableEq, Inhabited

/-- Why the end of a session is a failure of the channel, even if the session is complete. -/
def SessionEnd.reason : SessionEnd → Failure
  | completed => .channelCompleted
  | broken reason => reason

end InterestMux
