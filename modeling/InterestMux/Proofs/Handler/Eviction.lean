import InterestMux.Proofs.Evictor.Rounds
import InterestMux.Proofs.Handler.Engine
import InterestMux.Proofs.Loop.Announcements

/-!
# Eviction in a handler

The evictor listens to the channels that the reconnect loop announces, from before the loop is
started. What else happens to the handler does not matter to it until it is to stop. So it pursues
the generations of the connection: each of its rounds is for the newest generation of its time, and
whenever it rests the newest generation has had its round.

## Main definitions

* `Handler.pursuit` : what the evictor is told and what it does, in a history of the handler.
* `Handler.announcements` : the channels that are announced, with their generations.
* `Handler.EvictsNewest`, `Handler.KeepsUp`

## Main results

* `Handler.Course.evictor` : the evictor of a handler runs through a course of its own.
* `Handler.Course.generations_eq` : its generations are those of the connection.
* `Handler.Course.evictsNewest` : no round is held for a superseded generation.
* `Handler.Course.keepsUp` : no newest generation is left without its round.
-/

namespace InterestMux.Handler

variable {α : Type}

/-- What the evictor is told, or does. -/
def Event.pursuit? : Event → Option Evictor.Deed
  | .connection (.established c _) => some (.announced c)
  | .eviction e => some (.did e)
  | _ => none

/-- What the evictor is told and what it does, oldest first. -/
def pursuit (events : List Event) : List Evictor.Deed :=
  events.filterMap Event.pursuit?

/-- The channels that are announced, oldest first, with their generations. -/
def announcements (events : List Event) : List (Channel × Nat) :=
  Loop.announcements (events.filterMap Event.loop?)

theorem pursuit_append (events later : List Event) :
    pursuit (events ++ later) = pursuit events ++ pursuit later :=
  List.filterMap_append

theorem announcements_append (events later : List Event) :
    announcements (events ++ later) = announcements events ++ announcements later := by
  rw [announcements, List.filterMap_append, Loop.announcements_append]
  rfl

@[simp] theorem pursuit_map_eviction (events : List Evictor.Event) :
    pursuit (events.map .eviction) = events.map .did := by
  rw [pursuit, List.filterMap_map, ← List.filterMap_eq_map]
  rfl

@[simp] theorem announcements_map_eviction (events : List Evictor.Event) :
    announcements (events.map .eviction) = [] := by
  rw [announcements, filterMap_loop?_eviction]
  rfl

theorem pursuit_filter_isEngine (events : List Event) :
    pursuit (events.filter Event.isEngine) = pursuit events := by
  rw [pursuit, List.filterMap_filter, pursuit]
  congr 1
  funext e
  cases e <;> rfl

/-! ### The course of the evictor -/

/-- The evictor of an engine, with the ring that it listens to. -/
def Engine.watch (e : Engine) : Evictor.Situation :=
  { evictor := e.evictor, channels := e.connection.channels }

/-- What the loop does is announced to the evictor as far as it concerns the evictor. -/
theorem course_of_record (evictor : Evictor) (c : Connection Interest)
    (events : List (Loop.Event Interest)) :
    InterestMux.Course Evictor.Step { evictor, channels := c.channels }
      (pursuit (events.map .connection))
      { evictor, channels := (events.foldl Connection.record c).channels } := by
  induction events generalizing c with
  | nil => exact .start
  | cons e events ih =>
    cases e with
    | established channel generation =>
      have announced := InterestMux.Course.single
        (Evictor.Step.announce { evictor, channels := c.channels } channel)
      exact announced.append (ih (c.record (.established channel generation)))
    | published state => exact ih (c.record (.published state))
    | withdrawn => exact ih (c.record .withdrawn)
    | _ => exact ih c

theorem Engine.Step.evictor {e e' : Engine} {events : List Event} (step : Engine.Step e events e') :
    InterestMux.Course Evictor.Step e.watch (pursuit events) e'.watch := by
  cases step with
  | rest | finish | drop => exact .start
  | close =>
    have hcloses := Connection.closes_close e.connection
    generalize e.connection.close.1 = c, e.connection.closeDeeds = deeds at hcloses ⊢
    cases hcloses <;> exact .start
  | @turn _ l l' deeds => exact course_of_record e.evictor { e.connection with loop := some l' } _
  | notice hnotice =>
    rw [pursuit_map_eviction]
    exact .single (.notice (w := e.watch) hnotice)
  | answer outcome =>
    rw [pursuit_map_eviction]
    exact .single (.answer e.watch outcome)

section Course

variable {settings : Settings} {metrics : Option Metrics} {events : List Event} {h : Handler α}

/-- **The evictor of a handler runs through a course of its own**, from before the first
announcement on. -/
theorem Course.evictor (course : Course settings metrics events h) :
    Evictor.Course (.create settings.channelHistory.toNat) (pursuit events) h.engine.watch := by
  have engine := course.engine
  rw [← pursuit_filter_isEngine]
  generalize h.engine = e, events.filter Event.isEngine = deeds at engine
  induction engine with
  | start => exact .start
  | step _ last ih =>
    rw [pursuit_append]
    exact ih.append last.evictor

/-! ### Generations -/

theorem Course.ready (course : Course settings metrics events h) :
    Throughout Loop.Ready (events.filterMap Event.loop?) := by
  rcases course.loop with hnone | ⟨policy, records, l, loop, hrecords⟩
  · rw [hnone]
    exact throughout_nil _
  · rw [← hrecords]
    exact (Loop.Course.announcing loop).ready

theorem announced_pursuit (events : List Event) :
    Evictor.announced (pursuit events) = (announcements events).map Prod.fst := by
  rw [Evictor.announced, pursuit, List.filterMap_filterMap, announcements, Loop.announcements,
    List.filterMap_filterMap, List.map_filterMap]
  congr 1
  funext e
  cases e with
  | connection e => cases e <;> rfl
  | _ => rfl

/-- **The generations of the evictor are those of the connection**, from the first on. -/
theorem Course.generations_eq (course : Course settings metrics events h) :
    Evictor.generations (pursuit events) = announcements events := by
  have hnumbers :
      (announcements events).map Prod.snd = List.range' 1 (announcements events).length :=
    Loop.map_snd_announcements course.ready
  rw [Evictor.generations, announced_pursuit, List.zipIdx_eq_zip_range', List.length_map,
    ← hnumbers]
  exact (List.zip_of_prod rfl rfl).symm

theorem Course.pursues (course : Course settings metrics events h) :
    Evictor.Pursues (pursuit events) h.engine.watch :=
  Evictor.Course.pursues (Ring.capacity_create_pos (α := Channel) settings.channelHistory.toNat)
    course.evictor

/-! ### Rounds -/

/-- No round is held for a superseded generation. -/
structure EvictsNewest (events : List Event) : Prop where
  /-- A round begins while none is under way, and spares the source of the channel that was
  announced last, whose generation has had no round yet, nor has a later one. -/
  orderly : Throughout Evictor.Orderly (pursuit events)
  /-- At any time all rounds that began have ended, but for at most one. -/
  single : ∀ before, before <+: pursuit events → Evictor.ended before <+: Evictor.begun before ∧
    (Evictor.begun before).length ≤ (Evictor.ended before).length + 1
  /-- Rounds are held for later and later generations. -/
  increasing : (Evictor.rounds (pursuit events)).Pairwise fun round later => round.1 < later.1
  /-- A generation has a round only if its channel has a source, which the round spares. -/
  sourced : ∀ round ∈ Evictor.rounds (pursuit events),
    ∃ c, (c, round.1) ∈ announcements events ∧ c.source = some round.2

/-- **Rounds of eviction never go to a superseded generation**, whatever happens during a round and
however it ends: at most one round is under way, each is for the newest generation of its time, and
no generation has two. -/
theorem Course.evictsNewest (course : Course settings metrics events h) : EvictsNewest events := by
  have orderly := course.pursues.orderly
  constructor
  case orderly => exact orderly
  case single =>
    rintro before ⟨after, hbefore⟩
    rw [← hbefore] at orderly
    rw [Evictor.begun_eq (throughout_append.mp orderly).1]
    refine ⟨List.prefix_append _ _, ?_⟩
    rw [List.length_append]
    exact Nat.add_le_add_left Option.length_toList_le _
  case increasing => exact Evictor.increasing_rounds orderly
  case sourced =>
    rw [← course.generations_eq]
    exact Evictor.sourced_rounds orderly

/-- During a slow round two more channels are announced, one more than the ring keeps. The second
generation is superseded and has no round. -/
theorem evictsNewest_after_slow_round :
    ∃ (events : List Event) (h : Handler Unit), Course { channelHistory := 1 } none events h ∧
      announcements events =
        [(⟨0, some ⟨.interested, none, 7⟩⟩, 1), (⟨1, some ⟨.interested, none, 8⟩⟩, 2),
          (⟨2, some ⟨.interested, none, 9⟩⟩, 3)] ∧
      Evictor.rounds (pursuit events) =
        [(1, ⟨.interested, none, 7⟩), (3, ⟨.interested, none, 9⟩)] ∧
      EvictsNewest events := by
  have start : Course { channelHistory := 1 } none [] (_ : Handler Unit) := ⟨_, rfl, .start⟩
  have first := ((start.step (.noticeLoop (rfl : noticeLoop? _ none = some _))).step
    (.answerLoop (.created ⟨0, some ⟨.interested, none, 7⟩⟩) rfl)).step (.answerLoop .applied rfl)
  have round := first.step (.noticeEvictor rfl)
  have lost := ((round.step (.noticeLoop (rfl : noticeLoop? _ (some .completed) = some _))).step
    (.answerLoop .released rfl)).step (.answerLoop .elapsed rfl)
  have second := (lost.step (.answerLoop (.created ⟨1, some ⟨.interested, none, 8⟩⟩) rfl)).step
    (.answerLoop .applied rfl)
  have again := ((second.step (.noticeLoop (rfl : noticeLoop? _ (some .completed) = some _))).step
    (.answerLoop .released rfl)).step (.answerLoop .elapsed rfl)
  have third := (again.step (.answerLoop (.created ⟨2, some ⟨.interested, none, 9⟩⟩) rfl)).step
    (.answerLoop .applied rfl)
  have lagged := (third.step (.answerEvictor _ (.ok 3))).step (.noticeEvictor rfl)
  have course := lagged.step (.noticeEvictor rfl)
  exact ⟨_, _, course, rfl, rfl, course.evictsNewest⟩

/-- The evictor keeps up with the announcements. -/
structure KeepsUp (events : List Event) (h : Handler α) : Prop where
  /-- It is not over before the handler is shut down or dropped. -/
  alive : h.evictor.wait = .finished → h.phase = .down ∨ h.dropped = true
  /-- If it waits for an announcement and has nothing to do, all announcements are consumed, and the
  newest channel, if it has a source, has had its round, and no other. -/
  idle : h.evictor.wait = .listening → h.noticeEvictor? = none →
    Evictor.consumed (pursuit events) = (announcements events).length ∧
      ∀ c generation source, (announcements events).getLast? = some (c, generation) →
        c.source = some source →
          (generation, source) ∈ Evictor.rounds (pursuit events) ∧
            ((Evictor.rounds (pursuit events)).map Prod.fst).count generation = 1
  /-- However a round ends, the evictor then waits for an announcement, and goes on if there is one
  that is not consumed. -/
  resumes : ∀ source, h.evictor.wait = .evicting source → ∀ outcome,
    (h.answerEvictor outcome).1.evictor.wait = .listening ∧
      (Evictor.consumed (pursuit events) < (announcements events).length →
        (h.answerEvictor outcome).1.noticeEvictor?.isSome = true)

/-- An evictor that has nothing to do has held the round of the newest generation. -/
theorem Course.idle (course : Course settings metrics events h)
    (hwait : h.evictor.wait = .listening) (hidle : h.noticeEvictor? = none) :
    Evictor.consumed (pursuit events) = (announcements events).length ∧
      ∀ c generation source, (announcements events).getLast? = some (c, generation) →
        c.source = some source →
          (generation, source) ∈ Evictor.rounds (pursuit events) ∧
            ((Evictor.rounds (pursuit events)).map Prod.fst).count generation = 1 := by
  have hnothing : h.evictor.notice? h.stopped h.connection.channels h.isPublishing = none :=
    Option.map_eq_none_iff.mp hidle
  obtain ⟨hconsumed, hnewest⟩ := course.pursues.newest_evicted hwait hnothing
  refine ⟨by rw [hconsumed, announced_pursuit, List.length_map], ?_⟩
  intro c generation source hlast hsource
  rw [← course.generations_eq, Evictor.generations, List.getLast?_zipIdx,
    Nat.add_sub_cancel_left] at hlast
  obtain ⟨newest, hannounced, hnumber⟩ := Option.map_eq_some_iff.mp hlast
  obtain ⟨rfl, rfl⟩ := Prod.mk.inj hnumber
  exact hnewest newest source hannounced hsource

/-- **No newest generation is left without its round.** Whenever the evictor has nothing to do, it
has consumed all announcements, however many piled up during earlier rounds and however these ended,
and the newest channel has had exactly one round, if it has a source. -/
theorem Course.keepsUp (course : Course settings metrics events h) : KeepsUp events h := by
  constructor
  case alive => exact course.isOver_of_finished
  case idle => exact course.idle
  case resumes =>
    intro source hwait outcome
    obtain ⟨hlistening, hnone⟩ := Evictor.answer_evicting hwait outcome
    refine ⟨hlistening, fun hbehind => ?_⟩
    by_contra hidle
    rw [Option.not_isSome_iff_eq_none] at hidle
    have answered := course.step (.answerEvictor h outcome)
    have hevents : (h.answerEvictor outcome).2 = (h.evictor.answer outcome).2.map .eviction := rfl
    obtain ⟨hall, -⟩ := answered.idle hlistening hidle
    rw [hevents, pursuit_append, announcements_append, pursuit_map_eviction,
      announcements_map_eviction, Evictor.consumed_append, hnone, List.append_nil] at hall
    exact Nat.ne_of_lt hbehind hall

/-- The round for the first generation fails, and meanwhile a channel without a source and one with
a source are announced, one more than the ring keeps. The evictor is told of the gap, takes the
newest channel and holds its round, and then has nothing to do. -/
theorem keepsUp_after_failed_round :
    ∃ (events : List Event) (h : Handler Unit), Course { channelHistory := 1 } none events h ∧
      announcements events =
        [(⟨0, some ⟨.interested, none, 7⟩⟩, 1), (⟨1, none⟩, 2),
          (⟨2, some ⟨.interested, none, 9⟩⟩, 3)] ∧
      .eviction (.failed (.eviction "no") ⟨.interested, none, 7⟩) ∈ events ∧
      h.evictor.wait = .listening ∧ h.noticeEvictor? = none ∧
      (3, ⟨.interested, none, 9⟩) ∈ Evictor.rounds (pursuit events) ∧ KeepsUp events h := by
  have start : Course { channelHistory := 1 } none [] (_ : Handler Unit) := ⟨_, rfl, .start⟩
  have first := ((start.step (.noticeLoop (rfl : noticeLoop? _ none = some _))).step
    (.answerLoop (.created ⟨0, some ⟨.interested, none, 7⟩⟩) rfl)).step (.answerLoop .applied rfl)
  have round := first.step (.noticeEvictor rfl)
  have lost := ((round.step (.noticeLoop (rfl : noticeLoop? _ (some .completed) = some _))).step
    (.answerLoop .released rfl)).step (.answerLoop .elapsed rfl)
  have second := (lost.step (.answerLoop (.created ⟨1, none⟩) rfl)).step (.answerLoop .applied rfl)
  have again := ((second.step (.noticeLoop (rfl : noticeLoop? _ (some .completed) = some _))).step
    (.answerLoop .released rfl)).step (.answerLoop .elapsed rfl)
  have third := (again.step (.answerLoop (.created ⟨2, some ⟨.interested, none, 9⟩⟩) rfl)).step
    (.answerLoop .applied rfl)
  have failed := third.step (.answerEvictor _ (.error (.eviction "no")))
  have next := (failed.step (.noticeEvictor rfl)).step (.noticeEvictor rfl)
  have course := next.step (.answerEvictor _ (.ok 2))
  have keepsUp := course.keepsUp
  refine ⟨_, _, course, rfl, ?_, rfl, rfl, ((keepsUp.idle rfl rfl).2 _ _ _ rfl rfl).1, keepsUp⟩
  refine List.mem_append_left _ (List.mem_append_left _ (List.mem_append_left _ ?_))
  exact List.mem_append_right _ List.mem_cons_self

end Course

end InterestMux.Handler
