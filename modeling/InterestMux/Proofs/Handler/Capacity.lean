import InterestMux.Proofs.Handler.Delivery
import InterestMux.Proofs.Handler.Engine

/-!
# Settings that a handler can run with

Validation rules out settings without any room. Rings and buffers also have greatest capacities,
which the settings can exceed: a history above the limit of a ring breaks down the construction of
the handler, and a buffer above its limit breaks down every subscription until there is a shutdown.
So validation is not enough for a handler to run, and with these two limits it is.

## Main definitions

* `Handler.IsRunnable` : nothing that a caller does with the settings breaks down.
* `Settings.IsWithinLimits` : a ring and buffers can be made for the settings.

## Main results

* `Handler.build_of_validate`, `Handler.Run.snd_subscribe` : when a construction and when a
  subscription breaks down.
* `Handler.isRunnable_iff` : a handler can run with valid settings within the limits, and with no
  others.
-/

namespace InterestMux

/-- A ring can be made for the history, and buffers for the streams. -/
structure Settings.IsWithinLimits (settings : Settings) : Prop where
  history_le : settings.channelHistory.toNat ≤ Breakdown.ringLimit
  buffer_le : settings.streamBuffer.toNat ≤ Breakdown.bufferLimit

theorem Settings.ne_zero_of_validate {settings : Settings} (hvalid : settings.validate = .ok ()) :
    settings.channelHistory.toNat ≠ 0 ∧ settings.streamBuffer.toNat ≠ 0 := by
  rw [validate] at hvalid
  split at hvalid
  · cases hvalid
  · rename_i hbuffer
    split at hvalid
    · cases hvalid
    · rename_i hhistory
      exact ⟨fun h => hhistory (UInt64.toNat_inj.mp h), fun h => hbuffer (UInt64.toNat_inj.mp h)⟩

namespace Handler

variable {α : Type} {settings : Settings} {metrics : Option Metrics}

/-! ### What breaks down -/

theorem isShutDown_of_build {h : Handler α} (hbuild : build settings metrics = .ok h) :
    h.isShutDown = false := by
  rw [isShutDown, phase_of_build hbuild]
  rfl

/-- **Valid settings make a handler**, unless the history is too long for a ring. -/
theorem build_of_validate (metrics : Option Metrics) (hvalid : settings.validate = .ok ()) :
    if settings.channelHistory.toNat ≤ Breakdown.ringLimit then
      ∃ h : Handler α, build settings metrics = .ok h
    else build (α := α) settings metrics = .error (.broke .hugeRing) := by
  have hroom := (Settings.ne_zero_of_validate hvalid).1
  rw [build, hvalid]
  split
  · rename_i hlimit
    have hring : Breakdown.ofRing? settings.channelHistory.toNat = none := by
      rw [Breakdown.ofRing?, if_neg hroom, if_neg (Nat.not_lt.mpr hlimit)]
    simp only [hring]
    exact ⟨_, rfl⟩
  · rename_i hlimit
    have hring : Breakdown.ofRing? settings.channelHistory.toNat = some .hugeRing := by
      rw [Breakdown.ofRing?, if_neg hroom, if_pos (Nat.not_le.mp hlimit)]
    simp only [hring]

/-- **What a subscriber gets**: after a shutdown a refusal, and before it a stream, unless the
buffers are too large. -/
theorem snd_subscribe (h : Handler α) (i : Interest) :
    (h.subscribe i).2 =
      if h.isShutDown then .refused .shutDown
      else if h.streamBuffer ≤ Breakdown.bufferLimit then .opened h.streams.length
      else .broke .hugeBuffer := by
  rw [subscribe]
  split
  · rfl
  · rw [Breakdown.ofBuffer?]
    by_cases hlimit : h.streamBuffer ≤ Breakdown.bufferLimit
    · rw [if_pos hlimit, if_neg (Nat.not_lt.mpr hlimit)]
    · rw [if_neg hlimit, if_pos (Nat.not_le.mp hlimit)]

/-- **In a run it is the settings that decide** what a subscriber gets. -/
theorem Run.snd_subscribe {turns : List (Turn α)} {h : Handler α}
    (run : Run settings metrics turns h) (i : Interest) :
    (h.subscribe i).2 =
      if h.isShutDown then .refused .shutDown
      else if settings.streamBuffer.toNat ≤ Breakdown.bufferLimit then .opened h.streams.length
      else .broke .hugeBuffer := by
  rw [Handler.snd_subscribe, run.streamBuffer_eq]

theorem Run.streamBuffer_ne_zero {turns : List (Turn α)} {h : Handler α}
    (run : Run settings metrics turns h) : settings.streamBuffer.toNat ≠ 0 := by
  obtain ⟨h₀, hbuild, -⟩ := run
  rw [build] at hbuild
  split at hbuild
  · cases hbuild
  · rename_i hvalid
    exact (Settings.ne_zero_of_validate hvalid).2

/-! ### What runs -/

/-- A caller who builds a handler from the settings gets one, and then every subscription is opened,
with some room in its buffer, or is refused because of a shutdown. -/
structure IsRunnable (α : Type) (settings : Settings) (metrics : Option Metrics) : Prop where
  builds : ∃ h : Handler α, build settings metrics = .ok h
  opens : ∀ turns (h : Handler α), Run settings metrics turns h → ∀ i, (h.subscribe i).2 =
    if h.isShutDown then .refused .shutDown else .opened h.streams.length
  roomy : ∀ turns (h : Handler α), Run settings metrics turns h → 0 < h.streamBuffer

theorem IsRunnable.isWithinLimits (runnable : IsRunnable α settings metrics)
    (hvalid : settings.validate = .ok ()) : settings.IsWithinLimits := by
  obtain ⟨⟨h, hbuilt⟩, hopens, -⟩ := runnable
  constructor
  case history_le =>
    have hbuild := build_of_validate (α := α) metrics hvalid
    by_contra hlimit
    rw [if_neg hlimit, hbuilt] at hbuild
    cases hbuild
  case buffer_le =>
    -- The first subscription to the new handler shows the limit.
    have built : Run settings metrics [] h := ⟨h, hbuilt, .start⟩
    have hfirst := hopens [] h built .all
    rw [built.snd_subscribe, isShutDown_of_build hbuilt] at hfirst
    by_contra hlimit
    simp [hlimit] at hfirst

/-- **Valid settings can be run with exactly if they are within the limits** of rings and
buffers. -/
theorem isRunnable_iff (hvalid : settings.validate = .ok ()) :
    IsRunnable α settings metrics ↔ settings.IsWithinLimits := by
  refine ⟨fun runnable => runnable.isWithinLimits hvalid, ?_⟩
  rintro ⟨hhistory, hbuffer⟩
  constructor
  case builds =>
    have hbuild := build_of_validate (α := α) metrics hvalid
    rwa [if_pos hhistory] at hbuild
  case opens =>
    intro turns h run i
    rw [run.snd_subscribe, if_pos hbuffer]
  case roomy =>
    intro turns h run
    rw [run.streamBuffer_eq]
    exact Nat.pos_of_ne_zero (Settings.ne_zero_of_validate hvalid).2

/-- A history of a thousand channels, with the greatest buffers that there can be. -/
theorem isRunnable_at_greatest_buffer :
    ({ channelHistory := 1000, streamBuffer := 2305843009213693951 } :
        Settings).validate = .ok () ∧
      IsRunnable Unit { channelHistory := 1000, streamBuffer := 2305843009213693951 } none :=
  ⟨rfl, (isRunnable_iff rfl).mpr ⟨by decide, by decide⟩⟩

/-- One more place in the buffers, or in the history, and validation still accepts the settings, but
the first subscription breaks down, or the construction. -/
theorem not_isRunnable_beyond_limits :
    ({ streamBuffer := 2305843009213693952 } : Settings).validate = .ok () ∧
      ¬ IsRunnable Unit { streamBuffer := 2305843009213693952 } none ∧
    ({ channelHistory := 9223372036854775808 } : Settings).validate = .ok () ∧
      ¬ IsRunnable Unit { channelHistory := 9223372036854775808 } none := by
  refine ⟨rfl, fun runnable => ?_, rfl, fun runnable => ?_⟩
  · exact absurd (runnable.isWithinLimits rfl).buffer_le (by decide)
  · exact absurd (runnable.isWithinLimits rfl).history_le (by decide)

end Handler

end InterestMux
