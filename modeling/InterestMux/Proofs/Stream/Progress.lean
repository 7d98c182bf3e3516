import InterestMux.Proofs.Stream.Exhaustion
import Mathlib.Tactic.ByContra

/-!
# Streams make progress

A forwarder is never stuck. While the lifecycle stays as it is it goes on of its own accord only so
often; then it waits for the next notification, or for room in the buffer, which there is when the
subscriber reads.

## Main definitions

* `Stream.stepsLeft` : how often a forwarder can go on while the lifecycle stays as it is.

## Main results

* `Stream.stepsLeft_lt` : the forwarder of a held stream goes on only so often.
* `Stream.IsBlocked.goes_on` : a forwarder without room goes on when the subscriber reads.
-/

namespace InterestMux.Stream

variable {α : Type} {lifecycle : Watch ConnectionState} {publishing : Bool} {s s' : Stream α}

/-- How often the forwarder can go on of its own accord while the lifecycle stays as it is. A
forwarder that still follows a lifecycle without a publisher has to find that out, and one that
waits for a notification may have to look at a state that it has not seen. -/
def stepsLeft (lifecycle : Watch ConnectionState) (publishing : Bool) (s : Stream α) : Nat :=
  let unwatching := if s.forwarder.watching && !publishing then 3 else 0
  match s.forwarder.wait with
  | .finished => 0
  | .sending (.error _) => 1
  | .sending (.ok _) => 3 + unwatching
  | .looking => 2 + unwatching
  | .selecting =>
    if s.forwarder.watching && lifecycle.changedSince s.forwarder.seen then 3 + unwatching
    else unwatching

/-- **The forwarder of a held stream has fewer steps left** whenever it goes on. -/
theorem stepsLeft_lt (hheld : s.held = true) (hnotice : s.notice? lifecycle publishing = some s') :
    s'.stepsLeft lifecycle publishing < s.stepsLeft lifecycle publishing := by
  cases notices_of_notice? hnotice with
  | giveUp hwait =>
    simp only [stepsLeft, hwait]
    omega
  | look seen hwait _ hseen =>
    -- The forwarder has seen the latest state now, if it follows the lifecycle.
    have hlatest : (s.forwarder.watching && lifecycle.changedSince seen) = false := by
      cases hwatching : s.forwarder.watching <;> simp [hseen, hwatching, Watch.changedSince]
    simp only [stepsLeft, hwait, hlatest, Bool.false_eq_true, if_false]
    omega
  | abandon _ hdropped => simp [hheld] at hdropped
  | wake hwait _ hchanged =>
    have hwatching : s.forwarder.watching = true := by
      by_contra hunwatched
      simp [notice?, hwait, hheld, hunwatched] at hnotice
    simp [stepsLeft, hwait, hwatching, hchanged]
  | unwatch hwait _ hsettled hwatching hseen =>
    simp [stepsLeft, hwait, hsettled, hwatching, hseen]
  | @deliver d hwait => cases d <;> simp [stepsLeft, deliver, hwait]

/-- If the buffer is full the subscriber can read, and then the forwarder goes on. -/
theorem IsBlocked.goes_on (blocked : s.IsBlocked) (hheld : s.held = true)
    (hroom : s.capacity ≠ 0) (hfull : s.buffer.length ≤ s.capacity) :
    ∃ d, s.poll.1 = .ready d ∧ (s.poll.2.notice? lifecycle publishing).isSome = true := by
  obtain ⟨⟨waiting, hwait⟩, hblocked⟩ := blocked
  cases hbuffer : s.buffer with
  | nil =>
    rw [hbuffer] at hblocked
    exact absurd (Nat.le_zero.mp hblocked) hroom
  | cons d rest =>
    have hless : rest.length < s.capacity := by
      rw [hbuffer] at hfull
      exact hfull
    exact ⟨d, by simp only [poll, hbuffer], by simp [poll, hbuffer, notice?, hwait, hheld, hless]⟩

end InterestMux.Stream
