import InterestMux.Proofs.Handler.Eviction
import InterestMux.Proofs.Handler.Run

/-!
# Metrics of a handler

A handler that is built with metrics records numbers at several places: its callers when they ask
for a stream, its loop when it establishes a channel or schedules another attempt, and its evictor
at the end of a round. What its instruments have added up agrees at any time with what happened.

## Main definitions

* `Handler.tally` : what an instrument adds up over a list of events.
* `Handler.subscriptions`, `Handler.outcomes`, `Handler.states` : what callers got, how the rounds
  of eviction ended, and the states that were published.
* `Handler.Accounts` : the totals agree with what happened.

## Main results

* `Handler.Run.metrics_eq` : a run records what its events record, and nothing else.
* `Handler.occasion` : each move records on one occasion at most.
* `Handler.Run.accounts` : the totals agree with what happened, in every run.
-/

namespace InterestMux

/-! ### Totals -/

namespace Metrics

theorem total_append (m : Metrics) (later : List (Instrument × Nat)) (i : Instrument) :
    total ⟨m.recordings ++ later⟩ i = m.total i + total ⟨later⟩ i := by
  simp only [total, recorded, List.filter_append, List.map_append, ← List.sum_eq_foldr,
    List.sum_append]

theorem foldl_record (m : Metrics) (later : List (Instrument × Nat)) :
    later.foldl (fun m r => m.record r.1 r.2) m = ⟨m.recordings ++ later⟩ := by
  induction later generalizing m with
  | nil => rw [List.foldl_nil, List.append_nil]
  | cons r later ih => rw [List.foldl_cons, ih, record, List.append_assoc, List.singleton_append]

theorem total_eq_zero {recordings : List (Instrument × Nat)} {i : Instrument}
    (hother : ∀ r ∈ recordings, r.1 ≠ i) : total ⟨recordings⟩ i = 0 := by
  have hnone : (recordings.filter fun r => r.1 == i) = [] :=
    List.filter_eq_nil_iff.mpr fun r hr => by simpa using hother r hr
  rw [total, recorded, hnone]
  rfl

end Metrics

/-! ### Attempts -/

/-- The state tells of a failure with another attempt to come. -/
def ConnectionState.isBackoff : ConnectionState → Bool
  | backoff _ _ _ => true
  | _ => false

namespace Loop

variable {T : Type} {policy : RetryPolicy} {s : Sight T} {l l' : Loop T} {deeds : List (Record T)}

/-- The loop schedules another attempt. -/
def Event.isScheduling : Event T → Bool
  | .scheduled _ _ _ => true
  | _ => false

/-- An attempt is scheduled wherever it is published, on every way of a loop. -/
theorem Passage.countP_isScheduling (passage : Passage s l deeds l') :
    (deeds.filterMap Record.event?).countP Event.isScheduling =
      (states (deeds.filterMap Record.event?)).countP ConnectionState.isBackoff := by
  cases passage with
  | refuse _ hafter | releaseFailed _ hafter => cases hafter <;> rfl
  | _ => rfl

/-- **A loop publishes each attempt that it schedules.** -/
theorem Course.countP_isScheduling {records : List (Record T)} (course : Course policy records l) :
    (records.filterMap Record.event?).countP Event.isScheduling =
      (states (records.filterMap Record.event?)).countP ConnectionState.isBackoff := by
  induction course with
  | start => rfl
  | step _ last ih =>
    obtain ⟨s, hstep⟩ := last
    rw [List.filterMap_append, states_append, List.countP_append, List.countP_append, ih,
      hstep.passage.countP_isScheduling]

end Loop

namespace Handler

variable {α : Type} {h h' : Handler α} {events : List Event} {i : Instrument} {move : Move α}

/-! ### Tallies -/

/-- What an instrument adds up over a list of events. -/
def tally (i : Instrument) (events : List Event) : Nat :=
  Metrics.total ⟨events.flatMap Event.recordings⟩ i

theorem tally_append (i : Instrument) (events later : List Event) :
    tally i (events ++ later) = tally i events + tally i later := by
  rw [tally, List.flatMap_append]
  exact Metrics.total_append ⟨_⟩ _ i

theorem tally_cons (i : Instrument) (e : Event) (events : List Event) :
    tally i (e :: events) = tally i [e] + tally i events :=
  tally_append i [e] events

theorem tally_of_recordings (i : Instrument) (hnone : events.flatMap Event.recordings = []) :
    tally i events = 0 := by
  rw [tally, hnone]
  rfl

theorem tally_channelGenerations (events : List Event) :
    tally .channelGenerations events = (announcements events).length := by
  induction events with
  | nil => rfl
  | cons e events ih =>
    have hfirst : tally .channelGenerations [e] = (announcements [e]).length := by
      cases e with
      | connection e | eviction e => cases e <;> rfl
      | _ => rfl
    rw [tally_cons, hfirst, ih, ← List.length_append, ← announcements_append]
    rfl

theorem tally_channelReconnects (events : List Event) :
    tally .channelReconnects events =
      (events.filterMap Event.loop?).countP Loop.Event.isScheduling := by
  induction events with
  | nil => rfl
  | cons e events ih =>
    have hfirst : tally .channelReconnects [e] =
        ([e].filterMap Event.loop?).countP Loop.Event.isScheduling := by
      cases e with
      | connection e | eviction e => cases e <;> rfl
      | _ => rfl
    rw [tally_cons, hfirst, ih, ← List.countP_append, ← List.filterMap_append]
    rfl

/-! ### What is recorded -/

/-- The metrics after some events. -/
def noted (events : List Event) (m : Metrics) : Metrics :=
  ⟨m.recordings ++ events.flatMap Event.recordings⟩

theorem total_noted (events : List Event) (m : Metrics) (i : Instrument) :
    (noted events m).total i = m.total i + tally i events :=
  Metrics.total_append m _ i

theorem noted_nil : noted [] = id :=
  funext fun m => congrArg Metrics.mk (List.append_nil m.recordings)

theorem noted_append (events later : List Event) (m : Metrics) :
    noted (events ++ later) m = noted later (noted events m) := by
  simp only [noted, List.flatMap_append, List.append_assoc]

theorem metrics_measure (h : Handler α) (events : List Event) :
    (h.measure events).metrics = h.metrics.map (noted events) := by
  simp only [measure, Metrics.foldl_record]
  rfl

theorem metrics_of_recordings (hnone : events.flatMap Event.recordings = [])
    (hmetrics : h'.metrics = h.metrics) : h'.metrics = h.metrics.map (noted events) := by
  rw [← metrics_measure, measure_of_recordings h hnone, hmetrics]

theorem metrics_subscribe (h : Handler α) (i : Interest) :
    (h.subscribe i).1.1.metrics = h.metrics.map (noted (h.subscribe i).1.2) := by
  rw [subscribe]
  by_cases hdown : h.isShutDown = true
  · rw [if_pos hdown]
    exact metrics_measure h _
  · rw [if_neg hdown]
    cases Breakdown.ofBuffer? h.streamBuffer <;> exact metrics_measure _ _

/-- **Every move takes note of what happens in it.** -/
theorem metrics_of_play? (hplay : h.play? move = some (h', events)) :
    h'.metrics = h.metrics.map (noted events) := by
  cases played_of_play? hplay with
  | @subscribe i _ _ _ _ hcall =>
    have hnoted := metrics_subscribe h i
    rwa [hcall] at hnoted
  | dropStream => exact metrics_of_recordings (recordings_unionEvents _ _) rfl
  | finishShutdown _ _ _ hcrash =>
    refine metrics_of_recordings ?_ rfl
    rw [hcrash]
    cases h.connection.isCrashed <;> rfl
  | dropNothing | poll | pollNothing | shutdown | shutdownAgain | drop | lookForwarder | pull =>
    exact metrics_of_recordings rfl rfl
  | lookLoop | hearLoop | lookEvictor | hearEvictor | lookFollower => exact metrics_measure _ _

/-! ### Occasions -/

/-- A stream was handed out. -/
def Subscription.isOpened : Subscription → Bool
  | .opened _ => true
  | _ => false

/-- The call was refused because the handler is shut down. -/
def Subscription.isRefused : Subscription → Bool
  | .refused .shutDown => true
  | _ => false

/-- What a caller gets in a turn that is a call for a stream. -/
def Turn.subscription? (t : Turn α) : Option Subscription :=
  match t.move with
  | .subscribe i => some (t.before.subscribe i).2
  | _ => none

/-- How a round of eviction ends, in a turn that ends one. -/
def Turn.outcome? (t : Turn α) : Option (Except Failure Nat) :=
  match t.move, t.before.evictor.wait with
  | .hearEvictor outcome, .evicting _ => some outcome
  | _, _ => none

/-- The entries that a round removed. -/
def evictedCount : Except Failure Nat → Nat
  | .ok count => count
  | .error _ => 0

/-- The round failed. -/
def isFailed : Except Failure Nat → Bool
  | .ok _ => false
  | .error _ => true

/-- What a turn has to do with the callers and the evictor, as far as it is recorded: what a caller
got, how a round ended, and the events of the turn. -/
inductive Occasion : Option Subscription → Option (Except Failure Nat) → List Event → Prop
  | opened {before : List Event} (hbefore : before.flatMap Event.recordings = []) (k : Nat)
      (i : Interest) : Occasion (some (.opened k)) none (before ++ [.subscribed k i])
  | refused : Occasion (some (.refused .shutDown)) none [.refused]
  | broke {events : List Event} (hnone : events.flatMap Event.recordings = [])
      (cause : Breakdown) : Occasion (some (.broke cause)) none events
  | evicted (count : Nat) (source : Source) :
    Occasion none (some (.ok count)) [.eviction (.evicted count source)]
  | failed (reason : Failure) (source : Source) :
    Occasion none (some (.error reason)) [.eviction (.failed reason source)]
  /-- The loop does something. -/
  | loop (events : List (Loop.Event Interest)) : Occasion none none (events.map .connection)
  | other {events : List Event} (hnone : events.flatMap Event.recordings = []) :
    Occasion none none events

theorem recordings_takeNewest (channels : Ring Channel) (received : Channel) (cursor : Nat) :
    ((Evictor.takeNewest channels received cursor).2.map Event.eviction).flatMap
      Event.recordings = [] := by
  rw [Evictor.takeNewest]
  dsimp only
  split <;> rfl

theorem recordings_notice? {e : Evictor} {stopped announcing : Bool} {channels : Ring Channel}
    {result : Evictor.Result} (hnotice : e.notice? stopped channels announcing = some result) :
    (result.2.map Event.eviction).flatMap Event.recordings = [] := by
  cases hwait : e.wait with
  | evicting | finished => simp [Evictor.notice?, hwait] at hnotice
  | listening =>
    simp only [Evictor.notice?, hwait] at hnotice
    split at hnotice
    · obtain rfl := Option.some.inj hnotice
      rfl
    split at hnotice
    · obtain rfl := Option.some.inj hnotice
      rfl
    · obtain rfl := Option.some.inj hnotice
      exact recordings_takeNewest _ _ _
    · obtain ⟨-, hfinish⟩ := Option.ite_none_left_eq_some.mp hnotice
      obtain rfl := Option.some.inj hfinish
      rfl

/-- **Each move records on one occasion at most.** -/
theorem occasion (hplay : h.play? move = some (h', events)) :
    Occasion (Turn.subscription? ⟨h, move, events⟩) (Turn.outcome? ⟨h, move, events⟩) events := by
  cases played_of_play? hplay with
  | @subscribe i _ _ subscription _ hcall =>
    have hgets : Turn.subscription? ⟨h, .subscribe i, events⟩ = some subscription :=
      congrArg (fun result : Result α × Subscription => some result.2) hcall
    rw [hgets]
    cases subscribes_of_eq hcall with
    | opened =>
      rw [List.append_cons]
      refine .opened ?_ _ _
      rw [List.flatMap_append, recordings_unionEvents]
      rfl
    | refused => exact .refused
    | broke =>
      refine .broke ?_ _
      simp only [List.flatMap_append, recordings_unionEvents]
      rfl
  | dropStream => exact .other (recordings_unionEvents _ _)
  | finishShutdown _ _ _ hcrash =>
    refine .other ?_
    rw [hcrash]
    cases h.connection.isCrashed <;> rfl
  | dropNothing | poll | pollNothing | shutdown | shutdownAgain | drop | lookForwarder | pull =>
    exact .other rfl
  | lookLoop | hearLoop => exact .loop _
  | lookEvictor hnotice => exact .other (recordings_notice? hnotice)
  | hearEvictor outcome =>
    simp only [Turn.subscription?, Turn.outcome?, Evictor.answer]
    cases h.evictor.wait with
    | listening | finished => exact .other rfl
    | evicting source =>
      cases outcome with
      | ok count => exact .evicted count source
      | error reason => exact .failed reason source
  | @lookFollower result =>
    refine .other ?_
    cases result.2 <;> rfl

/-- What the loop does matters to two instruments only. -/
theorem tally_map_connection (events : List (Loop.Event Interest))
    (hother : i ≠ .channelGenerations ∧ i ≠ .channelReconnects) :
    tally i (events.map .connection) = 0 := by
  refine Metrics.total_eq_zero fun r hr => ?_
  obtain ⟨e, he, hr⟩ := List.mem_flatMap.mp hr
  obtain ⟨e, -, rfl⟩ := List.mem_map.mp he
  cases e with
  | established =>
    obtain rfl := List.mem_singleton.mp hr
    exact hother.1.symm
  | scheduled =>
    obtain rfl := List.mem_singleton.mp hr
    exact hother.2.symm
  | _ => cases hr

/-! ### Accounts -/

/-- What an instrument of the callers or of the evictor has to show for some calls for a stream and
some rounds of eviction. -/
def due (calls : List Subscription) (rounds : List (Except Failure Nat)) : Instrument → Nat
  | .subscriptionsOpened => calls.countP Subscription.isOpened
  | .subscriptionsRejected => calls.countP Subscription.isRefused
  | .evictedInstances => (rounds.map evictedCount).foldr (· + ·) 0
  | .evictionFailures => rounds.countP isFailed
  | .channelGenerations | .channelReconnects | .channelAge => 0

theorem due_append (calls later : List Subscription) (rounds further : List (Except Failure Nat))
    (i : Instrument) :
    due (calls ++ later) (rounds ++ further) i = due calls rounds i + due later further i := by
  cases i with
  | subscriptionsOpened | subscriptionsRejected | evictionFailures => exact List.countP_append
  | evictedInstances =>
    simp only [due, List.map_append, ← List.sum_eq_foldr, List.sum_append]
  | channelGenerations | channelReconnects | channelAge => rfl

/-- What is recorded on an occasion is due to it. -/
theorem Occasion.tally_eq {call : Option Subscription} {round : Option (Except Failure Nat)}
    (occasion : Occasion call round events)
    (hother : i ≠ .channelGenerations ∧ i ≠ .channelReconnects) :
    tally i events = due call.toList round.toList i := by
  cases occasion with
  | opened hbefore =>
    rw [tally_append, tally_of_recordings i hbefore, Nat.zero_add]
    cases i <;> rfl
  | broke hnone | other hnone =>
    rw [tally_of_recordings i hnone]
    cases i <;> rfl
  | loop events =>
    rw [tally_map_connection events hother]
    cases i <;> rfl
  | refused | evicted | failed => cases i <;> rfl

/-- What callers got for their calls for a stream, oldest first. -/
def subscriptions (turns : List (Turn α)) : List Subscription :=
  turns.filterMap Turn.subscription?

/-- How the rounds of eviction ended, oldest first. -/
def outcomes (turns : List (Turn α)) : List (Except Failure Nat) :=
  turns.filterMap Turn.outcome?

theorem subscriptions_concat (turns : List (Turn α)) (t : Turn α) :
    subscriptions (turns ++ [t]) = subscriptions turns ++ t.subscription?.toList := by
  rw [subscriptions, List.filterMap_append, List.filterMap_cons]
  cases t.subscription? <;> rfl

theorem outcomes_concat (turns : List (Turn α)) (t : Turn α) :
    outcomes (turns ++ [t]) = outcomes turns ++ t.outcome?.toList := by
  rw [outcomes, List.filterMap_append, List.filterMap_cons]
  cases t.outcome? <;> rfl

/-- The lifecycle states that were published, oldest first. -/
def states (turns : List (Turn α)) : List ConnectionState :=
  Loop.states ((eventsOf turns).filterMap Event.loop?)

/-- The totals of a handler's metrics agree with what happened since it was built with `m₀`.
Counters of 64 bits show these totals as long as they fit. -/
structure Accounts (m₀ m : Metrics) (turns : List (Turn α)) (h : Handler α) : Prop where
  /-- Each call that returned a stream is counted, -/
  opened : m.total .subscriptionsOpened =
    m₀.total .subscriptionsOpened + (subscriptions turns).countP Subscription.isOpened
  /-- and so is each call that was refused because the handler is shut down. -/
  rejected : m.total .subscriptionsRejected =
    m₀.total .subscriptionsRejected + (subscriptions turns).countP Subscription.isRefused
  /-- Each channel that was announced is counted, -/
  generations : m.total .channelGenerations =
    m₀.total .channelGenerations + h.connection.channels.announced.length
  /-- and the latest connected state has their number as its generation. -/
  latest : (Loop.generations (states turns)).getLast?.getD 0 =
    h.connection.channels.announced.length
  /-- Each published failure with another attempt to come is counted. -/
  reconnects : m.total .channelReconnects =
    m₀.total .channelReconnects + (states turns).countP ConnectionState.isBackoff
  /-- The counts of the rounds that succeeded are added up, -/
  evicted : m.total .evictedInstances =
    m₀.total .evictedInstances + ((outcomes turns).map evictedCount).foldr (· + ·) 0
  /-- and the rounds that failed are counted. -/
  failed : m.total .evictionFailures =
    m₀.total .evictionFailures + (outcomes turns).countP isFailed

section Run

variable {settings : Settings} {metrics : Option Metrics} {m₀ : Metrics} {turns : List (Turn α)}

theorem metrics_of_build {h₀ : Handler α} (hbuild : build settings metrics = .ok h₀) :
    h₀.metrics = metrics := by
  rw [build] at hbuild
  split at hbuild
  · cases hbuild
  split at hbuild
  · cases hbuild
  obtain rfl := Except.ok.inj hbuild
  rfl

/-- **A run records what its events record**, and nothing else. -/
theorem Run.metrics_eq (run : Run settings metrics turns h) :
    h.metrics = metrics.map (noted (eventsOf turns)) := by
  refine run.induction (fun h₀ hbuild => ?_) ?_
  · rw [metrics_of_build hbuild, eventsOf, List.flatMap_nil, noted_nil, Option.map_id_fun, id]
  · intro turns h move events h' _ hplay ih
    rw [metrics_of_play? hplay, ih, eventsOf_concat, Option.map_map]
    congr 1
    funext m
    exact (noted_append _ _ m).symm

/-- What the callers and the evictor record is due to their calls and rounds. -/
theorem Run.tally_eq (run : Run settings metrics turns h)
    (hother : i ≠ .channelGenerations ∧ i ≠ .channelReconnects) :
    tally i (eventsOf turns) = due (subscriptions turns) (outcomes turns) i := by
  refine run.induction (fun _ _ => by cases i <;> rfl) ?_
  intro turns h move events h' _ hplay ih
  rw [eventsOf_concat, tally_append, ih, (occasion hplay).tally_eq hother, ← due_append,
    subscriptions_concat, outcomes_concat]

theorem Course.tally_channelReconnects {events : List Event}
    (course : Course settings metrics events h) :
    tally .channelReconnects events =
      (Loop.states (events.filterMap Event.loop?)).countP ConnectionState.isBackoff := by
  rw [Handler.tally_channelReconnects]
  rcases course.loop with hnone | ⟨policy, records, l, loop, hrecords⟩
  · rw [hnone]
    rfl
  · rw [← hrecords]
    exact loop.countP_isScheduling

theorem Course.announced_eq {events : List Event} (course : Course settings metrics events h) :
    h.connection.channels.announced = (announcements events).map Prod.fst := by
  rw [← announced_pursuit]
  exact course.pursues.announced_eq

theorem Course.connected_eq {events : List Event} (course : Course settings metrics events h) :
    Loop.generations (Loop.states (events.filterMap Event.loop?)) =
      List.range' 1 (announcements events).length := by
  have ready := course.ready
  rw [announcements, ← Loop.map_snd_announcements ready]
  rcases course.loop with hnone | ⟨policy, records, l, loop, hrecords⟩
  · rw [hnone]
    rfl
  · rw [← hrecords]
    exact (Loop.Course.announcing loop).connected_eq

/-- **The metrics agree with what happened**, at any time in every run of a handler that is built
with metrics, whatever its callers do and however its collaborators answer. -/
theorem Run.accounts (run : Run settings (some m₀) turns h) :
    ∃ m, h.metrics = some m ∧ Accounts m₀ m turns h := by
  have hlength : h.connection.channels.announced.length =
      (announcements (eventsOf turns)).length := by
    rw [run.course.announced_eq, List.length_map]
  have total (i : Instrument) : (noted (eventsOf turns) m₀).total i =
      m₀.total i + tally i (eventsOf turns) := total_noted _ _ _
  refine ⟨_, run.metrics_eq, ?_⟩
  constructor
  case opened => rw [total, run.tally_eq (by decide)]; rfl
  case rejected => rw [total, run.tally_eq (by decide)]; rfl
  case generations => rw [total, tally_channelGenerations, hlength]
  case latest =>
    rw [states, run.course.connected_eq, List.getLast?_range', hlength]
    by_cases hnone : (announcements (eventsOf turns)).length = 0
    · rw [if_pos hnone, hnone, Option.getD_none]
    · rw [if_neg hnone, Option.getD_some]
      omega
  case reconnects =>
    rw [total, run.course.tally_channelReconnects]
    rfl
  case evicted => rw [total, run.tally_eq (by decide)]; rfl
  case failed => rw [total, run.tally_eq (by decide)]; rfl

end Run

/-- A stream is handed out, two channels are announced one after another, a round removes three
entries and another one fails, and a call after the shutdown is refused. -/
theorem accounts_of_shutdown :
    ∃ (turns : List (Turn Unit)) (h : Handler Unit) (m : Metrics),
      Run {} (some {}) turns h ∧ h.metrics = some m ∧
      Instrument.every.map m.total = [1, 1, 2, 1, 3, 1, 0] ∧ Accounts {} m turns h := by
  have built : Run {} (some {}) [] (_ : Handler Unit) := ⟨_, rfl, .start⟩
  have opened := built.play (.subscribe .all) rfl
  have asked := (opened.play (.lookLoop none) rfl).play
    (.hearLoop (.created ⟨0, some ⟨.interested, none, 7⟩⟩)) rfl
  have first := (asked.play (.hearLoop .applied) rfl).play .lookEvictor rfl
  have lost := ((first.play (.lookLoop (some .completed)) rfl).play (.hearLoop .released) rfl).play
    (.hearLoop .elapsed) rfl
  have again := lost.play (.hearLoop (.created ⟨1, some ⟨.interested, none, 8⟩⟩)) rfl
  have second := (again.play (.hearLoop .applied) rfl).play (.hearEvictor (.ok 3)) rfl
  have failed := (second.play .lookEvictor rfl).play
    (.hearEvictor (.error (.eviction "no"))) rfl
  have run := (failed.play .shutdown rfl).play (.subscribe (.vip "cache")) rfl
  obtain ⟨m, hm, accounts⟩ := run.accounts
  obtain rfl := Option.some.inj hm
  exact ⟨_, _, _, run, rfl, by decide, accounts⟩

end Handler

end InterestMux
