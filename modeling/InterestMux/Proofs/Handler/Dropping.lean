import InterestMux.Proofs.Connection.Closure
import InterestMux.Proofs.Handler.Capacity
import InterestMux.Proofs.Handler.Exhaustion
import InterestMux.Proofs.Handler.Registrations
import InterestMux.Proofs.Handler.Shutdown
import InterestMux.Proofs.Stream.Progress

/-!
# Dropping a handler

A handler can be dropped without being shut down, at any moment. Its tasks learn of that in
different ways: the loop and the evictor are told to stop, the follower too, and a forwarder finds
that nobody is left who publishes lifecycle states once the loop is over. The first three come to
their end, and all that they may have to wait for is the release of a channel or the end of a round.
The streams stay. Each has its registration and hands on what the registry has for it, until that
comes to an end or the connection has given up.

## Main definitions

* `Follower.stepsLeft` : how often a follower can go on that is told to stop.
* `Handler.Event.isParting` : what may still happen when a handler is dropped.
* `Handler.IsAbandoned` : a handler whose tasks are told to stop.
* `Handler.GoesOn` : a stream hands on what the registry has for it.
* `Handler.WindsDown` : what becomes of the tasks and of the streams.

## Main results

* `Handler.IsAbandoned.play`, `Handler.IsAbandoned.stays` : what happens to a dropped handler is
  part of its way out.
* `Handler.Run.goesOn` : a stream that is held goes on.
* `Handler.Run.windsDown` : a handler that is dropped winds down, and its streams go on.
-/

namespace InterestMux

/-! ### Tasks that are told to stop -/

/-- How often a follower that is told to stop can go on. -/
def Follower.stepsLeft (f : Follower) : Nat :=
  match f.wait with
  | .spawned => 2
  | .watching => 1
  | .finished => 0

theorem Follower.exists_notice?_stopped {f : Follower} (hrunning : f.isRunning = true)
    (lifecycle : Watch ConnectionState) (publishing : Bool) :
    ∃ result, f.notice? true lifecycle publishing = some result ∧
      result.1.stepsLeft < f.stepsLeft := by
  cases hwait : f.wait with
  | spawned =>
    refine ⟨report lifecycle, by rw [notice?, hwait], ?_⟩
    rw [report]
    cases lifecycle.value.isTerminal <;> simp [stepsLeft, hwait]
  | watching =>
    refine ⟨({ f with wait := .finished }, none), by simp [notice?, hwait], ?_⟩
    simp [stepsLeft, hwait]
  | finished => simp [isRunning, hwait] at hrunning

namespace Handler

variable {α : Type} {h h' : Handler α} {move : Move α} {events : List Event}

/-- What may still happen when a handler is dropped: the loop finds its way out, a round that is
under way ends, the follower reports, and streams that are dropped change the union. -/
def Event.isParting : Event → Bool
  | .connection e => e.isParting
  | .eviction (.evicted _ _) | .eviction (.failed _ _) | .reported _ | .united _ => true
  | _ => false

/-- The handler is dropped, and its tasks are told to stop. -/
structure IsAbandoned (h : Handler α) : Prop where
  dropped : h.dropped = true
  stopped : h.stopped = true
  cancelled : h.connection.cancelled = true

theorem isAbandoned_drop (h : Handler α) : IsAbandoned h.drop :=
  ⟨rfl, rfl, rfl⟩

theorem isParting_of_answer {e : Evictor} {outcome : Except Failure Nat} {x : Evictor.Event}
    (hx : x ∈ (e.answer outcome).2) : (Event.eviction x).isParting = true := by
  cases hwait : e.wait with
  | listening | finished => simp [Evictor.answer, hwait] at hx
  | evicting source =>
    cases outcome
    all_goals
      simp only [Evictor.answer, hwait, List.mem_singleton] at hx
      subst hx
      rfl

/-- **What happens to a dropped handler is part of its way out**, and its tasks stay told to stop.
Nobody calls it any more, but its streams can be read and dropped. A loop that is over leaves the
connection as it is. -/
theorem IsAbandoned.play (left : IsAbandoned h) (hplay : h.play? move = some (h', events)) :
    IsAbandoned h' ∧ (∀ e ∈ events, e.isParting = true) ∧
      (h.connection.isRunning = false → h'.connection = h.connection) := by
  obtain ⟨hdropped, hstopped, hcancelled⟩ := left
  have hunited (t t' : Tracker) : ∀ e ∈ unionEvents t t', e.isParting = true := fun e he => by
    obtain ⟨_, -, rfl⟩ := List.mem_map.mp he
    rfl
  cases played_of_play? hplay with
  | subscribe hheld | shutdown hheld | shutdownAgain hheld | finishShutdown hheld | drop hheld =>
    simp [hdropped] at hheld
  | dropStream => exact ⟨⟨hdropped, hstopped, hcancelled⟩, hunited _ _, fun _ => rfl⟩
  | lookLoop hnotice =>
    obtain ⟨hparting, hcancelled'⟩ := Connection.parting_of_notice? hcancelled hnotice
    refine ⟨⟨hdropped, hstopped, hcancelled'⟩, List.forall_mem_map.mpr hparting, fun hover => ?_⟩
    rw [Connection.notice?_of_over hover] at hnotice
    cases hnotice
  | hearLoop r hidle =>
    obtain ⟨hparting, hcancelled'⟩ := Connection.parting_of_answer r hcancelled hidle
    refine ⟨⟨hdropped, hstopped, hcancelled'⟩, List.forall_mem_map.mpr hparting, fun hover => ?_⟩
    exact congrArg Prod.fst (Connection.answer_of_over hover h.tracker.published r)
  | lookEvictor hnotice =>
    rw [hstopped] at hnotice
    obtain rfl := Evictor.notice?_stopped hnotice
    exact ⟨⟨hdropped, hstopped, hcancelled⟩, fun _ he => absurd he List.not_mem_nil, fun _ => rfl⟩
  | hearEvictor outcome =>
    refine ⟨⟨hdropped, hstopped, hcancelled⟩, ?_, fun _ => rfl⟩
    exact List.forall_mem_map.mpr fun _ => isParting_of_answer
  | lookFollower =>
    exact ⟨⟨hdropped, hstopped, hcancelled⟩, List.forall_mem_map.mpr fun _ _ => rfl, fun _ => rfl⟩
  | _ =>
    exact ⟨⟨hdropped, hstopped, hcancelled⟩, fun _ he => absurd he List.not_mem_nil, fun _ => rfl⟩

/-- **A handler that is dropped stays on its way out**, and its connection as it is once the loop is
over. -/
theorem IsAbandoned.stays {later : List (Turn α)} (left : IsAbandoned h)
    (course : InterestMux.Course Plays h later h') :
    IsAbandoned h' ∧ (∀ e ∈ eventsOf later, e.isParting = true) ∧
      (h.connection.isRunning = false → h'.connection = h.connection) := by
  induction course with
  | start => exact ⟨left, fun _ he => absurd he List.not_mem_nil, fun _ => rfl⟩
  | step _ last ih =>
    obtain ⟨move, events, hplay, rfl⟩ := last
    obtain ⟨left, hbefore, hsame⟩ := ih
    obtain ⟨left', hlast, hsame'⟩ := left.play hplay
    rw [eventsOf_concat]
    refine ⟨left', List.forall_mem_append.mpr ⟨hbefore, hlast⟩, fun hover => ?_⟩
    have hsame := hsame hover
    exact (hsame' (hsame ▸ hover)).trans hsame

section Abandoned

variable {l : Loop Interest} {c : Channel}

/-- The loop of a dropped handler has something to do at once, whatever it sees, unless it waits for
the release of a channel or is over. After that it does, or is. -/
theorem IsAbandoned.exists_play_lookLoop (left : IsAbandoned h)
    (hloop : h.connection.loop = some l) (hstays : l.isParting = false)
    (ended : Option SessionEnd) :
    ∃ h' events l', h.play? (.lookLoop ended) = some (h', events) ∧
      h'.connection.loop = some l' ∧ l'.isParting = true := by
  obtain ⟨result, l', hnotice, hl', hparting⟩ := Connection.exists_notice?_of_cancelled
    left.cancelled hloop hstays h.tracker.published true ended
  exact ⟨_, _, l', by simp only [play?, noticeLoop?, hnotice]; rfl, hl', hparting⟩

theorem IsAbandoned.exists_play_released (left : IsAbandoned h)
    (hloop : h.connection.loop = some l) (hleaving : l.leaving? = some c) :
    ∃ h' events, h.play? (.hearLoop .released) = some (h', events) ∧
      h'.connection.isRunning = false := by
  have hover := Connection.isRunning_answer_released left.cancelled hloop hleaving
    h.tracker.published
  have hidle : h.noticeLoop? none = none := by
    simp only [noticeLoop?, Connection.notice?, hloop, Option.map_eq_none_iff, Option.bind_some]
    cases hwait : l.wait <;> simp [Loop.leaving?, hwait] at hleaving
    simp [Loop.notice?, hwait]
  exact ⟨_, _, if_pos (by rw [hidle]; rfl), hover⟩

theorem IsAbandoned.exists_play_lookEvictor (left : IsAbandoned h)
    (hwait : h.evictor.wait = .listening) :
    ∃ h', h.play? .lookEvictor = some (h', []) ∧ h'.evictor.isRunning = false := by
  have hnotice : h.noticeEvictor? =
      some (finish { h with evictor := { h.evictor with wait := .finished } } []) := by
    simp [noticeEvictor?, Evictor.notice?, hwait, left.stopped]
  exact ⟨_, hnotice, rfl⟩

theorem exists_play_hearEvictor {source : Source} (hwait : h.evictor.wait = .evicting source)
    (outcome : Except Failure Nat) :
    ∃ h' events, h.play? (.hearEvictor outcome) = some (h', events) ∧
      h'.evictor.wait = .listening := by
  have hlistens : (h.evictor.answer outcome).1.wait = .listening := by
    cases outcome <;> simp only [Evictor.answer, hwait]
  exact ⟨_, _, rfl, hlistens⟩

theorem IsAbandoned.exists_play_lookFollower (left : IsAbandoned h)
    (hrunning : h.follower.isRunning = true) :
    ∃ h' events, h.play? .lookFollower = some (h', events) ∧
      h'.follower.stepsLeft < h.follower.stepsLeft := by
  obtain ⟨⟨follower, state⟩, hnotice, hless⟩ :=
    Follower.exists_notice?_stopped hrunning h.connection.lifecycle h.isPublishing
  exact ⟨_, _, by simp only [play?, noticeFollower?, left.stopped, hnotice]; rfl, hless⟩

theorem IsAbandoned.ne_subscribe (left : IsAbandoned h) (hplay : h.play? move = some (h', events))
    (i : Interest) : move ≠ .subscribe i := by
  rintro rfl
  exact absurd hplay (by simp [play?, left.dropped])

end Abandoned

/-! ### Streams of a dropped handler -/

/-- A stream goes on: it hands on what the registry has for it, in order, until that comes to an end
or the connection has given up. -/
structure GoesOn (turns : List (Turn α)) (h : Handler α) (k : Nat) (s : Stream α) : Prop where
  held : s.held = true
  /-- What was read, what is buffered and what waits for room is a copy of all that was taken, and
  then at most the failure of the connection. -/
  copied : ∃ failure,
    Stream.reads (transfersOf k turns) ++ s.buffer ++ s.waiting =
      (Stream.pulls (transfersOf k turns)).map Stream.copy ++ failure ∧
    (failure = [] ∨ ∃ n, GaveUp (eventsOf turns) n ∧ failure = [.error (.connectionExhausted n)])
  /-- A forwarder that is over has come to the end of the notifications, or has sent the failure.
  All is read or in the buffer. -/
  ended : s.forwarder.isRunning = false →
    (.dried ∈ transfersOf k turns ∧ Stream.reads (transfersOf k turns) ++ s.buffer =
        (Stream.pulls (transfersOf k turns)).map Stream.copy) ∨
      ∃ n, GaveUp (eventsOf turns) n ∧ Stream.reads (transfersOf k turns) ++ s.buffer =
        (Stream.pulls (transfersOf k turns)).map Stream.copy ++ [.error (.connectionExhausted n)]
  /-- Until then the buffer is full, so that the subscriber can read and the forwarder go on after
  that; or the forwarder takes whatever comes next; or it goes on at once, and not for ever. -/
  going : s.forwarder.isRunning = true →
    (s.IsBlocked ∧ ∃ d, s.poll.1 = .ready d ∧
      (s.poll.2.notice? h.connection.lifecycle h.isPublishing).isSome = true) ∨
    (s.isSelecting = true ∧
      ∀ next, h.play? (.pull k next) = some (h.setStream k (s.pull next), [])) ∨
    ∃ s', h.play? (.lookForwarder k) = some (h.setStream k s', []) ∧
      s'.stepsLeft h.connection.lifecycle h.isPublishing <
        s.stepsLeft h.connection.lifecycle h.isPublishing

/-- The streams of a dropped handler stay open until they are dropped, and no more are opened. -/
theorem IsAbandoned.mem_openStreams {turns later : List (Turn α)} {k : Nat} {i : Interest}
    (left : IsAbandoned h) (course : InterestMux.Course Plays h later h') :
    (k, i) ∈ openStreams (turns ++ later) ↔
      (k, i) ∈ openStreams turns ∧ ∀ u ∈ later, u.move ≠ .dropStream k := by
  induction course with
  | start => simp
  | @step later h₁ _ _ past last ih =>
    obtain ⟨move, events, hplay, rfl⟩ := last
    have hmove := (left.stays past).1.ne_subscribe hplay
    rw [← List.append_assoc, openStreams_concat, Turn.mem_leavesOpen hmove, ih, and_assoc,
      List.forall_mem_append, List.forall_mem_singleton]

section Run

variable {settings : Settings} {metrics : Option Metrics} {turns before later : List (Turn α)}
  {t : Turn α} {k : Nat} {s : Stream α}

/-- **A stream goes on**, whatever becomes of its handler. -/
theorem Run.goesOn (run : Run settings metrics turns h) (hk : h.streams[k]? = some s)
    (hheld : s.held = true) : GoesOn turns h k s := by
  have faithful := run.faithful hk
  constructor
  case held => exact hheld
  case copied =>
    obtain ⟨failure, hconcludes, hcopied⟩ := faithful.copied hheld
    exact ⟨failure, hcopied, hconcludes.eq_nil_or⟩
  case ended => exact faithful.of_over hheld
  case going =>
    intro hrunning
    have hroom : s.capacity ≠ 0 := faithful.capacity_eq ▸ run.streamBuffer_ne_zero
    have hfull : s.buffer.length ≤ s.capacity := faithful.capacity_eq ▸ faithful.length_buffer_le
    cases hnotice : s.notice? h.connection.lifecycle h.isPublishing with
    | some s' =>
      exact .inr (.inr ⟨s', by simp [play?, noticeForwarder?, hk, hnotice],
        Stream.stepsLeft_lt hheld hnotice⟩)
    | none =>
      rcases Stream.over_or_idle hnotice with hover | hselecting | blocked
      · exact absurd hrunning (by simp [hover])
      · exact .inr (.inl ⟨hselecting, fun next => by
          simp [play?, isSelecting, noticeForwarder?, pull, hk, hnotice, hselecting]⟩)
      · exact .inl ⟨blocked, blocked.goes_on hheld hroom hfull⟩

/-- What becomes of a handler that is dropped in a turn: its tasks come to their end, and its
streams stay. -/
structure WindsDown (before : List (Turn α)) (t : Turn α) (later : List (Turn α))
    (h : Handler α) : Prop where
  /-- Since then the loop has done nothing but find its way out: it has not requested a channel nor
  got one, begun to apply an operand nor applied it, announced a channel, or begun to rest. No round
  of eviction has begun, and the registry has not been asked for anything nor shut down. -/
  parting : ∀ e ∈ eventsOf later, e.isParting = true
  /-- If the registry was not shut down before that, it never is. -/
  unshut : t.before.phase ≠ .down → .registryShutDown ∉ eventsOf (before ++ t :: later)
  /-- A loop that is running and does not wait for the release of a channel has something to do at
  once, whatever it sees. After that it is over, or waits for the release of a channel. -/
  loopLeaves : ∀ l, h.connection.loop = some l → l.isParting = false → ∀ ended, ∃ h' events l',
    h.play? (.lookLoop ended) = some (h', events) ∧ h'.connection.loop = some l' ∧
      l'.isParting = true
  /-- A loop that waits for the release of a channel is over once the channel is released. -/
  loopEnds : ∀ l c, h.connection.loop = some l → l.leaving? = some c → ∃ h' events,
    h.play? (.hearLoop .released) = some (h', events) ∧ h'.connection.isRunning = false
  /-- A loop that is over has left a terminal state. It began to release every channel that it got
  exactly once, and has released them all. -/
  loopEnded : h.connection.isRunning = false →
    HasEnded (eventsOf (before ++ t :: later)) h ∧
      Loop.givenUp ((eventsOf (before ++ t :: later)).filterMap Event.loop?) =
        Loop.obtained ((eventsOf (before ++ t :: later)).filterMap Event.loop?)
  /-- From then on the connection stays as it is, and nobody is left who could publish a state. -/
  settled : h.connection.isRunning = false → ∀ later' h',
    InterestMux.Course Plays h later' h' → h'.connection = h.connection ∧ h'.isPublishing = false
  /-- An evictor that listens is over at once. -/
  evictorLeaves : h.evictor.wait = .listening → ∃ h',
    h.play? .lookEvictor = some (h', []) ∧ h'.evictor.isRunning = false
  /-- It listens again once a round that was under way has ended. -/
  evictorEnds : ∀ source, h.evictor.wait = .evicting source → ∀ outcome, ∃ h' events,
    h.play? (.hearEvictor outcome) = some (h', events) ∧ h'.evictor.wait = .listening
  /-- The follower goes on until it is over. -/
  followerEnds : h.follower.isRunning = true → ∃ h' events,
    h.play? .lookFollower = some (h', events) ∧ h'.follower.stepsLeft < h.follower.stepsLeft
  /-- What is open is what was open and has not been dropped since. -/
  open_iff : ∀ k i, (k, i) ∈ openStreams (before ++ t :: later) ↔
    (k, i) ∈ openStreams before ∧ ∀ u ∈ later, u.move ≠ .dropStream k
  /-- Exactly the interests of the open streams are registered. -/
  registered : h.tracker.Holds ((openStreams (before ++ t :: later)).map (·.2))
  goesOn : ∀ k i, (k, i) ∈ openStreams (before ++ t :: later) → ∃ s,
    h.streams[k]? = some s ∧ s.interest = i ∧ GoesOn (before ++ t :: later) h k s

/-- **A dropped handler stops its tasks and leaves its streams alone**, at whatever moment it is
dropped. The loop, the evictor and the follower only find their way out, and wait for nothing but
the release of a channel and the end of a round that was under way. When the loop is over, all
channels are released and the state is terminal. The registry is not shut down. Every stream that is
open keeps its registration and goes on. -/
theorem Run.windsDown (run : Run settings metrics (before ++ t :: later) h)
    (hdrop : t.move = .drop) (calm : IsCalm (before ++ t :: later)) :
    WindsDown before t later h := by
  obtain ⟨past, h₁, hplay, rest⟩ := run.split
  rw [hdrop] at hplay
  obtain ⟨-, hresult⟩ := Option.ite_none_left_eq_some.mp hplay
  obtain ⟨rfl, hnothing⟩ := Prod.mk.inj (Option.some.inj hresult)
  obtain ⟨left, hparting, -⟩ := (isAbandoned_drop t.before).stays rest
  have hopen : openStreams (before ++ [t]) = openStreams before := by
    rw [openStreams_concat, Turn.leavesOpen, hdrop]
  constructor
  case parting => exact hparting
  case unshut =>
    intro hphase hdown
    have hall : eventsOf (before ++ t :: later) = eventsOf before ++ eventsOf later := by
      simp [eventsOf, ← hnothing]
    rw [hall] at hdown
    rcases List.mem_append.mp hdown with hbefore | hlater
    · exact hphase (past.stages.completed_iff.mp hbefore)
    · exact Bool.false_ne_true (hparting _ hlater)
  case loopLeaves => exact fun l hloop hstays => left.exists_play_lookLoop hloop hstays
  case loopEnds => exact fun l c hloop hleaving => left.exists_play_released hloop hleaving
  case loopEnded =>
    intro hover
    have ended := run.hasEnded calm hover
    obtain ⟨l, hloop, hfinished⟩ := ended.finished
    obtain ⟨deeds, course, hdeeds⟩ := run.course.connection
    have custody := Connection.Course.custody course hloop hfinished
    rw [hdeeds] at custody
    refine ⟨ended, ?_⟩
    rw [custody.held_eq, Option.toList_none, List.append_nil]
  case settled =>
    intro hover later' h' course
    obtain ⟨left', -, hsame⟩ := left.stays course
    have hsame := hsame hover
    exact ⟨hsame, by simp [isPublishing, left'.dropped, hsame, hover]⟩
  case evictorLeaves => exact left.exists_play_lookEvictor
  case evictorEnds => exact fun source hwait => exists_play_hearEvictor hwait
  case followerEnds => exact left.exists_play_lookFollower
  case open_iff =>
    intro k i
    have hlater : before ++ t :: later = before ++ [t] ++ later := by simp
    rw [hlater, (isAbandoned_drop t.before).mem_openStreams rest, hopen]
  case registered => exact run.holds_openStreams
  case goesOn =>
    intro k i hmem
    rw [run.openStreams_eq, Stream.mem_numbered] at hmem
    obtain ⟨j, s, hs, hj, hheld, hinterest⟩ := hmem
    obtain rfl : k = j := hj.trans (Nat.zero_add j)
    exact ⟨s, hs, hinterest, run.goesOn hs hheld⟩

end Run

/-- A handler is dropped during a round of eviction, while a union is under way and a notification
waits for its place in a buffer. The channel is released and the tasks end. Of the two streams one
is dropped after that, and the other goes on to deliver. -/
theorem windsDown_during_round_and_change :
    ∃ (before later : List (Turn Nat)) (t : Turn Nat) (h : Handler Nat),
      Run {} none (before ++ t :: later) h ∧ t.move = .drop ∧ IsCalm (before ++ t :: later) ∧
      (eventsOf later).take 6 =
        [.connection .withdrawn, .connection (.releasing ⟨0, some ⟨.interested, none, 7⟩⟩),
          .connection (.released ⟨0, some ⟨.interested, none, 7⟩⟩),
          .connection (.published .closed), .eviction (.evicted 3 ⟨.interested, none, 7⟩),
          .reported .closed] ∧
      h.evictor.isRunning = false ∧ h.follower.isRunning = false ∧
      openStreams (before ++ t :: later) = [(0, .application "a")] ∧
      Stream.reads (transfersOf 0 later) = [.ok ⟨.add, 1⟩, .ok ⟨.delete, 1⟩] ∧
      WindsDown before t later h := by
  have built : Run {} none [] (_ : Handler Nat) := ⟨_, rfl, .start⟩
  have opened := (built.play (.subscribe (.application "a")) rfl).play (.lookLoop none) rfl
  have obtained := opened.play (.hearLoop (.created ⟨0, some ⟨.interested, none, 7⟩⟩)) rfl
  have bound := (obtained.play (.subscribe .all) rfl).play (.hearLoop .applied) rfl
  have round := (bound.play (.lookLoop none) rfl).play .lookEvictor rfl
  have taken := (round.play (.lookForwarder 0) rfl).play
    (.pull 0 (some (.tagged ⟨.add, 1⟩ default))) rfl
  have left := (taken.play .drop rfl).play (.lookLoop none) rfl
  have ended := (left.play (.hearLoop .released) rfl).play (.hearEvictor (.ok 3)) rfl
  have quiet := (ended.play .lookEvictor rfl).play .lookFollower rfl
  have sole := (quiet.play (.dropStream 1) rfl).play (.lookForwarder 0) rfl
  -- The forwarder finds out that the lifecycle is settled, and then goes back to its work.
  have settled := ((sole.play (.lookForwarder 0) rfl).play (.lookForwarder 0) rfl).play
    (.lookForwarder 0) rfl
  have again := (settled.play (.pull 0 (some (.plain ⟨.delete, 1⟩))) rfl).play
    (.lookForwarder 0) rfl
  have run := (again.play (.poll 0) rfl).play (.poll 0) rfl
  refine ⟨[_, _, _, _, _, _, _, _, _], [_, _, _, _, _, _, _, _, _, _, _, _, _, _], _, _, run, rfl,
    ?_, rfl, rfl, rfl, rfl, rfl, Run.windsDown run rfl ?_⟩
  all_goals simp [IsCalm]

end Handler

end InterestMux
