import InterestMux.Proofs.Handler.OpenStreams
import InterestMux.Proofs.Tracker.Refinement

/-!
# Registrations follow streams

A stream that is handed out has a registration, and gives it back when it is dropped. What the
callers of a handler were given and have not dropped tells all registrations, whatever else
happens: a subscription that is refused leaves no trace, and one that breaks down halfway takes its
registration back.

## Main definitions

* `Handler.Opens`, `Handler.TakesBack`, `Handler.Drops` : what the calls of callers do.
* `Handler.Registers` : the registrations follow the open streams, from call to call.

## Main results

* `Handler.Run.registers` : the registrations follow the open streams in every run.
-/

namespace InterestMux.Handler

variable {α : Type} {h h' : Handler α} {events : List Event}

section Run

variable {settings : Settings} {metrics : Option Metrics} {turns : List (Turn α)}

/-- The interests of the open streams of a run are registered. -/
theorem Run.holds_openStreams (run : Run settings metrics turns h) :
    h.tracker.Holds ((openStreams turns).map (·.2)) := by
  rw [run.openStreams_eq, Stream.map_snd_numbered]
  exact run.course.holds

/-- A caller gets a stream. -/
structure Opens (turns : List (Turn α)) (h : Handler α) (i : Interest) (k : Nat)
    (events : List Event) (h' : Handler α) : Prop where
  /-- The stream is a new one, and the others stay as they are. -/
  streams_eq : k = h.streams.length ∧ h'.streams = h.streams ++
    [{ interest := i, capacity := h.streamBuffer, forwarder := { seen := 0 } }]
  /-- There is one more registration, for its interest. -/
  countOf_eq : ∀ j, h'.tracker.countOf j = h.tracker.countOf j + if j = i then 1 else 0
  total_eq : h'.registrationCount = h.registrationCount + 1
  /-- When the registry is asked for the interest, the published union has it already. -/
  united : ∃ earlier, events = earlier ++ [.queried i, .subscribed k i] ∧
    lastUnion (eventsOf turns ++ earlier) =
      Interest.unionAll ((openStreams turns).map (·.2) ++ [i])

/-- A call for a stream breaks down: whatever it registered is taken back. -/
structure TakesBack (h h' : Handler α) : Prop where
  /-- Only the tracker has been touched, so the streams and their forwarders are what they were. -/
  same : h' = { h with tracker := h'.tracker }
  tally_eq : h'.tracker.tally = h.tracker.tally
  union_eq : h'.currentInterest = h.currentInterest

/-- An open stream is dropped. -/
structure Drops (h : Handler α) (k : Nat) (i : Interest) (h' : Handler α) : Prop where
  /-- Its registration is found. -/
  found : h.tracker.remove? i = some h'.tracker
  /-- There is one registration less, for its interest. -/
  countOf_eq : ∀ j, h.tracker.countOf j = h'.tracker.countOf j + if j = i then 1 else 0
  total_eq : h.registrationCount = h'.registrationCount + 1
  /-- Nothing else changes but the stream itself. -/
  same : ∃ s, h.streams[k]? = some s ∧
    h' = { h with tracker := h'.tracker, streams := h.streams.set k s.drop }

/-- The registrations of a handler follow the open streams, at the end of a run and with every call
that could come next. -/
structure Registers (turns : List (Turn α)) (h : Handler α) : Prop where
  total_eq : h.registrationCount = (openStreams turns).length
  countOf_eq : ∀ i, h.tracker.countOf i = (openStreams turns).countP (·.2 = i)
  /-- The open streams have different numbers. -/
  nodup : ((openStreams turns).map (·.1)).Nodup
  opens : ∀ i k h' events, h.subscribe i = ((h', events), .opened k) → Opens turns h i k events h'
  /-- A call that is refused changes nothing but the metrics, and nothing but that happens. -/
  refuses : ∀ i reason h' events, h.subscribe i = ((h', events), .refused reason) →
    h' = { h with metrics := h'.metrics } ∧ events = [.refused]
  breaks : ∀ i cause h' events, h.subscribe i = ((h', events), .broke cause) → TakesBack h h'
  drops : ∀ k i, (k, i) ∈ openStreams turns → Drops h k i (h.dropStream k).1
  /-- A stream is not dropped twice. -/
  ignores : ∀ k, k ∉ (openStreams turns).map (·.1) → h.dropStream k = (h, [])

theorem Run.opens {i : Interest} {k : Nat} (run : Run settings metrics turns h)
    (hcall : h.subscribe i = ((h', events), .opened k)) : Opens turns h i k events h' := by
  have holds := run.holds_openStreams
  have happend := holds.append i
  have hcounts := happend.countOf_cons holds
  have subscribes := subscribes_of_eq hcall
  have hlast := (subscribes.lastUnion_eq run.lastUnion_eq).1
  cases subscribes with
  | opened _ _ hopened =>
    have htracker := congrArg Handler.tracker hopened
    constructor
    case streams_eq => exact ⟨rfl, congrArg Handler.streams hopened⟩
    case countOf_eq =>
      rw [htracker]
      exact hcounts.1
    case total_eq =>
      rw [registrationCount, htracker]
      exact hcounts.2
    case united =>
      refine ⟨_, rfl, hlast.trans ?_⟩
      exact (happend.perm (List.perm_append_singleton _ _).symm).union_eq

theorem Run.takesBack {i : Interest} {cause : Breakdown} (run : Run settings metrics turns h)
    (hcall : h.subscribe i = ((h', events), .broke cause)) : TakesBack h h' := by
  have holds := run.holds_openStreams
  cases subscribes_of_eq hcall
  refine ⟨rfl, h.tracker.tally_remove_append holds.proper i, ?_⟩
  rw [currentInterest, currentInterest, (holds.append i).remove.union_eq, holds.union_eq]

theorem Run.drops {k : Nat} {i : Interest} (run : Run settings metrics turns h)
    (hopen : (k, i) ∈ openStreams turns) : Drops h k i (h.dropStream k).1 := by
  have hheld := hopen
  rw [run.openStreams_eq, Stream.mem_numbered] at hheld
  obtain ⟨j, s, hs, hj, hheld, rfl⟩ := hheld
  obtain rfl : k = j := hj.trans (Nat.zero_add j)
  have holds : h.tracker.Holds (s.interest :: ((openStreams turns).map (·.2)).erase s.interest) :=
    run.holds_openStreams.perm (List.perm_cons_erase (List.mem_map.mpr ⟨_, hopen, rfl⟩))
  obtain ⟨hcountOf, htotal⟩ := holds.countOf_cons holds.remove
  rw [dropStream_of_held hs hheld]
  exact ⟨holds.remove?_eq, hcountOf, htotal, s, hs, rfl⟩

/-- **Registrations follow streams exactly**, whatever callers, tasks and collaborators do: the
registrations are those of the streams that are handed out and not dropped, a call that gets a
stream adds one and any other call adds none, and a stream that is dropped takes its own away. -/
theorem Run.registers (run : Run settings metrics turns h) : Registers turns h := by
  have holds := run.holds_openStreams
  constructor
  case total_eq => rw [registrationCount, holds.total_eq, List.length_map]
  case countOf_eq =>
    intro i
    rw [holds.countOf_eq, Multiset.count, Multiset.coe_countP, List.countP_map]
    exact List.countP_congr fun _ _ => by simp [eq_comm]
  case nodup =>
    rw [run.openStreams_eq]
    exact Stream.nodup_numbered 0 h.streams
  case opens => exact fun _ _ _ _ => run.opens
  case refuses =>
    intro i reason h' events hcall
    cases subscribes_of_eq hcall
    exact ⟨rfl, rfl⟩
  case breaks => exact fun _ _ _ _ => run.takesBack
  case drops => exact fun _ _ => run.drops
  case ignores =>
    intro k hk
    refine dropStream_of_not_held fun ⟨s, hs, hheld⟩ => hk ?_
    rw [run.openStreams_eq]
    exact List.mem_map.mpr ⟨(k, s.interest), Stream.mem_numbered.mpr
      ⟨k, s, hs, (Nat.zero_add k).symm, hheld, rfl⟩, rfl⟩

end Run

/-- Two streams of one interest and a third one are opened, and one of the two is dropped when a
shutdown has begun: the other keeps its registration. Where the buffers are too large, a call for a
stream has broken down and left no registration. -/
theorem registers_after_drop_and_breakdown :
    ∃ (turns broken : List (Turn Unit)) (h h' : Handler Unit),
      Run {} none turns h ∧ h.isShutDown = true ∧
      openStreams turns = [(0, .application "a"), (2, .all)] ∧ h.registrationCount = 2 ∧
      h.tracker.countOf (.application "a") = 1 ∧ Registers turns h ∧
      Run { streamBuffer := 2305843009213693952 } none broken h' ∧
      .queried .all ∈ eventsOf broken ∧ h'.registrationCount = 0 ∧ Registers broken h' := by
  have built : Run {} none [] (_ : Handler Unit) := ⟨_, rfl, .start⟩
  have first := built.play (.subscribe (.application "a")) rfl
  have second := first.play (.subscribe (.application "a")) rfl
  have shutDown := (second.play (.subscribe .all) rfl).play .shutdown rfl
  have run := shutDown.play (.dropStream 1) rfl
  have large : Run { streamBuffer := 2305843009213693952 } none [] (_ : Handler Unit) :=
    ⟨_, rfl, .start⟩
  have broken := large.play (.subscribe .all) rfl
  exact ⟨_, _, _, _, run, rfl, rfl, rfl, rfl, run.registers, broken,
    List.mem_cons_of_mem _ List.mem_cons_self, rfl, broken.registers⟩

end InterestMux.Handler
