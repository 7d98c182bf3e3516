import InterestMux.Handler.Basic
import InterestMux.Proofs.Connection.Course

/-!
# Courses of a handler

A course of a handler begins with a handler that was built from settings. Its callers and its
tasks take steps in any order, and its collaborators answer in any way and at any time. Nobody can
call a handler that is dropped, but its streams can still be used. A task that can go on of its own
accord does so before it takes an answer.

The connection of a handler follows the tracker: each step of the handler is a course of its
connection, where the union that the tracker publishes is the operand.

## Main definitions

* `Handler.Step`, `Handler.Course`
* `Handler.situation` : the connection of a handler with the union as its operand.

## Main results

* `Handler.Course.connection` : the connection of a handler runs through a course of its own.
* `Handler.Course.loop` : so does its loop.
-/

namespace InterestMux.Handler

variable {α : Type}

/-- A step of a caller, of a collaborator, or of a task. -/
inductive Step : Handler α → List Event → Handler α → Prop
  | subscribe {h : Handler α} (i : Interest) (hheld : h.dropped = false) :
    Step h (h.subscribe i).1.2 (h.subscribe i).1.1
  | dropStream (h : Handler α) (k : Nat) : Step h (h.dropStream k).2 (h.dropStream k).1
  | poll (h : Handler α) (k : Nat) : Step h [] (h.poll k).2
  | shutdown {h : Handler α} (hheld : h.dropped = false) : Step h h.shutdown.2 h.shutdown.1
  | finishShutdown {h : Handler α} {result : Result α} (hheld : h.dropped = false)
      (hstep : h.finishShutdown? = some result) : Step h result.2 result.1
  | drop {h : Handler α} (hheld : h.dropped = false) : Step h [] h.drop
  | noticeLoop {h : Handler α} {ended : Option SessionEnd} {result : Result α}
      (hstep : h.noticeLoop? ended = some result) : Step h result.2 result.1
  | answerLoop {h : Handler α} (r : Loop.Reply) (hidle : h.noticeLoop? none = none) :
    Step h (h.answerLoop r).2 (h.answerLoop r).1
  | noticeEvictor {h : Handler α} {result : Result α} (hstep : h.noticeEvictor? = some result) :
    Step h result.2 result.1
  | answerEvictor (h : Handler α) (outcome : Except Failure Nat) :
    Step h (h.answerEvictor outcome).2 (h.answerEvictor outcome).1
  | noticeFollower {h : Handler α} {result : Result α} (hstep : h.noticeFollower? = some result) :
    Step h result.2 result.1
  | noticeForwarder {h h' : Handler α} {k : Nat} (hstep : h.noticeForwarder? k = some h') :
    Step h [] h'
  | pull {h : Handler α} {k : Nat} (next : Option (Notification α))
      (hidle : h.noticeForwarder? k = none) : Step h [] (h.pull k next)

/-- A course of a handler that is built from settings. -/
def Course (settings : Settings) (metrics : Option Metrics) (events : List Event)
    (h : Handler α) : Prop :=
  ∃ h₀ : Handler α, build settings metrics = .ok h₀ ∧ InterestMux.Course Step h₀ events h

theorem Course.step {settings : Settings} {metrics : Option Metrics} {events deeds : List Event}
    {h h' : Handler α} (course : Course settings metrics events h) (step : Step h deeds h') :
    Course settings metrics (events ++ deeds) h' :=
  course.imp fun _ started => ⟨started.1, .step started.2 step⟩

/-! ### What is built -/

/-- A handler that is built has no streams, an empty tracker, and a connection that is started. -/
theorem build_spec {settings : Settings} {metrics : Option Metrics} {h : Handler α}
    (hbuild : build settings metrics = .ok h) :
    h.tracker = {} ∧ h.streams = [] ∧
      h.connection = Connection.start { channels := .create settings.channelHistory.toNat }
        settings.retryPolicy := by
  rw [build] at hbuild
  cases hvalid : settings.validate with
  | error fault => simp [hvalid] at hbuild
  | ok _ =>
    cases hring : Breakdown.ofRing? settings.channelHistory.toNat with
    | some cause => simp [hvalid, hring] at hbuild
    | none =>
      simp only [hvalid, hring, Except.ok.injEq] at hbuild
      subst hbuild
      exact ⟨rfl, rfl, rfl⟩

/-! ### The connection of a handler -/

/-- The connection of a handler follows the union that the tracker published last. -/
def situation (h : Handler α) : Connection.Situation Interest :=
  { connection := h.connection, operand := h.tracker.published }

/-- What the reconnect loop does. -/
def Event.loop? : Event → Option (Loop.Event Interest)
  | .connection e => some e
  | _ => none

theorem filterMap_loop?_connection (events : List (Loop.Event Interest)) :
    (events.map .connection).filterMap Event.loop? = events := by
  rw [List.filterMap_map]
  exact List.filterMap_some

theorem filterMap_loop?_unionEvents (before after : Tracker) :
    (unionEvents before after).filterMap Event.loop? = [] := by
  rw [unionEvents]
  cases Tracker.announced? before after <;> rfl

theorem filterMap_loop?_eviction (events : List Evictor.Event) :
    (events.map Event.eviction).filterMap Event.loop? = [] := by
  rw [List.filterMap_map]
  exact List.filterMap_eq_nil_iff.mpr fun _ _ => rfl

theorem course_of_situation_eq {w w' : Connection.Situation Interest} (hw : w' = w) :
    InterestMux.Course Connection.Step w [] w' := by
  subst hw
  exact .start

theorem course_of_publish (c : Connection Interest) (t : Tracker) :
    InterestMux.Course Connection.Step { connection := c, operand := t.published } []
      { connection := c, operand := t.publish.published } := by
  rw [Tracker.publish]
  split
  · exact .start
  · exact .single (.publish { connection := c, operand := t.published } t.tally.union)

theorem course_of_append (c : Connection Interest) (t : Tracker) (i : Interest) :
    InterestMux.Course Connection.Step { connection := c, operand := t.published } []
      { connection := c, operand := (t.append i).published } :=
  course_of_publish c { t with tally := t.tally.increase i }

theorem course_of_remove (c : Connection Interest) (t : Tracker) (i : Interest) :
    InterestMux.Course Connection.Step { connection := c, operand := t.published } []
      { connection := c, operand := (t.remove i).published } := by
  rw [Tracker.remove, Tracker.remove?]
  cases t.tally.decrease? i with
  | none => exact .start
  | some tally => exact course_of_publish c { t with tally }

/-- Every step of a handler is a course of its connection, with the same steps of the loop. -/
theorem Step.connection {h h' : Handler α} {events : List Event} (hstep : Step h events h') :
    ∃ deeds, InterestMux.Course Connection.Step h.situation deeds h'.situation ∧
      deeds.filterMap Connection.Deed.event? = events.filterMap Event.loop? := by
  cases hstep with
  | subscribe i hheld =>
    rw [Handler.subscribe]
    by_cases hdown : h.isShutDown = true
    · rw [if_pos hdown]
      exact ⟨[], .start, rfl⟩
    · rw [if_neg hdown]
      have happend := course_of_append h.connection h.tracker i
      cases hbuffer : Breakdown.ofBuffer? h.streamBuffer with
      | some cause =>
        refine ⟨[], happend.append (course_of_remove h.connection _ i), ?_⟩
        simp only [finish, List.filterMap_append, filterMap_loop?_unionEvents]
        rfl
      | none =>
        refine ⟨[], happend, ?_⟩
        simp only [finish, List.filterMap_append, filterMap_loop?_unionEvents]
        rfl
  | dropStream k =>
    rw [Handler.dropStream]
    cases h.streams[k]? with
    | none => exact ⟨[], .start, rfl⟩
    | some s =>
      by_cases hheld : s.held = true
      · simp only [if_pos hheld]
        refine ⟨[], course_of_remove h.connection h.tracker s.interest, ?_⟩
        exact (filterMap_loop?_unionEvents _ _).symm
      · simp only [if_neg hheld]
        exact ⟨[], .start, rfl⟩
  | poll k =>
    refine ⟨[], course_of_situation_eq ?_, rfl⟩
    rw [Handler.poll]
    cases h.streams[k]? <;> rfl
  | shutdown hheld =>
    rw [Handler.shutdown]
    by_cases hdown : h.isShutDown = true
    · rw [if_pos hdown]
      exact ⟨[], .start, rfl⟩
    · rw [if_neg hdown]
      exact ⟨_, .single (.close h.situation), Connection.filterMap_event?_closeDeeds _⟩
  | finishShutdown hheld hfinish =>
    simp only [finishShutdown?, Option.ite_none_right_eq_some, Option.some.injEq] at hfinish
    obtain ⟨-, rfl⟩ := hfinish
    refine ⟨[], .start, ?_⟩
    cases h.connection.isCrashed <;> rfl
  | drop hheld => exact ⟨[], .single (.cancel h.situation), rfl⟩
  | noticeLoop hnotice =>
    obtain ⟨⟨connection, events⟩, hloop, rfl⟩ := Option.map_eq_some_iff.mp hnotice
    refine ⟨_, .single (.notice (w := h.situation) hloop), ?_⟩
    exact (Connection.filterMap_event?_loop events).trans (filterMap_loop?_connection events).symm
  | answerLoop r hidle =>
    refine ⟨_, .single (.answer (w := h.situation) r (Option.map_eq_none_iff.mp hidle)), ?_⟩
    exact (Connection.filterMap_event?_loop _).trans (filterMap_loop?_connection _).symm
  | noticeEvictor hnotice =>
    obtain ⟨⟨evictor, events⟩, -, rfl⟩ := Option.map_eq_some_iff.mp hnotice
    exact ⟨[], .start, (filterMap_loop?_eviction events).symm⟩
  | answerEvictor outcome => exact ⟨[], .start, (filterMap_loop?_eviction _).symm⟩
  | noticeFollower hnotice =>
    obtain ⟨⟨follower, state⟩, -, rfl⟩ := Option.map_eq_some_iff.mp hnotice
    refine ⟨[], .start, ?_⟩
    cases state <;> rfl
  | noticeForwarder hnotice =>
    obtain ⟨s, -, hnotice⟩ := Option.bind_eq_some_iff.mp hnotice
    obtain ⟨s', -, rfl⟩ := Option.map_eq_some_iff.mp hnotice
    exact ⟨[], .start, rfl⟩
  | @pull k next hidle =>
    refine ⟨[], course_of_situation_eq ?_, rfl⟩
    rw [Handler.pull]
    cases h.streams[k]? <;> rfl

/-- **The connection of a handler runs through a course of its own**, with the steps of the loop
that the handler reports. -/
theorem Course.connection {settings : Settings} {metrics : Option Metrics} {events : List Event}
    {h : Handler α} (course : Course settings metrics events h) :
    ∃ deeds, Connection.Course (.create settings.channelHistory.toNat) ⟨.empty, 0⟩ deeds
        h.situation ∧
      deeds.filterMap Connection.Deed.event? = events.filterMap Event.loop? := by
  obtain ⟨h₀, hbuild, course⟩ := course
  obtain ⟨htracker, -, hconnection⟩ := build_spec hbuild
  have hstart : Connection.Course (.create settings.channelHistory.toNat) ⟨.empty, 0⟩ []
      h₀.situation := by
    rw [situation, htracker, hconnection]
    exact .single (.start _ settings.retryPolicy)
  obtain ⟨deeds, hdeeds, hevents⟩ := course.simulate fun _ _ _ => Step.connection
  exact ⟨deeds, hstart.append hdeeds, hevents⟩

/-- **The loop of a handler runs through a course of its own**, or does nothing. -/
theorem Course.loop {settings : Settings} {metrics : Option Metrics} {events : List Event}
    {h : Handler α} (course : Course settings metrics events h) :
    events.filterMap Event.loop? = [] ∨ ∃ policy records l, Loop.Course policy records l ∧
      records.filterMap Loop.Record.event? = events.filterMap Event.loop? := by
  obtain ⟨deeds, connection, hevents⟩ := course.connection
  have hfollows := Connection.Course.follows connection
  rw [← hevents]
  cases hloop : h.connection.loop with
  | none =>
    left
    simpa [Connection.Follows, situation, hloop] using hfollows
  | some l =>
    right
    simp only [Connection.Follows, situation, hloop] at hfollows
    obtain ⟨policy, records, loop, hrecords⟩ := hfollows
    exact ⟨policy, records, l, loop, hrecords⟩

end InterestMux.Handler
