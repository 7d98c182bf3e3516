import InterestMux.Proofs.Connection.Finality
import InterestMux.Proofs.Connection.SoleChannel
import InterestMux.Proofs.Loop.Announcements

/-!
# What observers are shown

A connection shows its channel in three places: it announces it, publishes that it is connected,
and has a current channel. The three agree wherever the loop waits. The one exception is a loop
that broke down while its channel was established: the channel stays the current one, never to be
released, and a call to close that comes after the loop has ended publishes the closed state.

## Main definitions

* `Connection.Turn.isPatient` : no call to close comes before an earlier one has returned.
* `Connection.Announces` : what observers are shown agrees with what happened.

## Main results

* `Connection.Course.lifecycle_eq` : the state that is shown is the one published last.
* `Connection.Course.exhausted_of_published` : an exhausted connection stays exhausted.
* `Connection.Run.announces` : what observers are shown agrees with what happened, in
  every run in which the calls to close do not overlap.
-/

namespace InterestMux.Connection

variable {T : Type}

/-- A call to close waits for the end of the loop. -/
def isAwaited (c : Connection T) : Bool :=
  !c.unclaimed && c.isRunning

/-- The turn is no call to close that comes before an earlier one has returned. -/
def Turn.isPatient (t : Turn T) : Bool :=
  match t.move with
  | .close => !t.before.connection.isAwaited
  | _ => true

@[simp] theorem foldl_record_announced (c : Connection T) (events : List (Loop.Event T)) :
    (events.foldl record c).channels.announced =
      c.channels.announced ++ (Loop.announcements events).map Prod.fst := by
  induction events generalizing c with
  | nil => exact (List.append_nil _).symm
  | cons e events ih =>
    cases e with
    | established channel generation =>
      rw [List.foldl_cons, ih]
      exact List.append_assoc _ [channel] _
    | _ => exact ih _

theorem generations_publications (h : List (Deed T)) :
    Loop.generations (publications h) =
      Loop.generations (Loop.states (h.filterMap Deed.event?)) := by
  induction h with
  | nil => rfl
  | cons deed h ih =>
    cases deed with
    | closed => exact ih
    | loop e =>
      cases e with
      | published state =>
        cases state with
        | connected generation => exact congrArg (generation :: ·) ih
        | _ => exact ih
      | _ => exact ih

theorem foldl_record_publications (c : Connection T) (events : List (Loop.Event T)) :
    (events.foldl record c).lifecycle.value =
      (publications (events.map .loop)).getLast?.getD c.lifecycle.value := by
  induction events generalizing c with
  | nil => rfl
  | cons e events ih =>
    rw [List.foldl_cons, ih]
    cases e with
    | published state =>
      have hfirst : publications ((Loop.Event.published state :: events).map Deed.loop) =
          state :: publications (events.map .loop) := rfl
      rw [hfirst, List.getLast?_cons]
      rfl
    | _ => rfl

theorem Course.lifecycle_eq {channels : Ring Channel} {operand : Watch T} {h : List (Deed T)}
    {w : Situation T} (course : Course channels operand h w) :
    w.connection.lifecycle.value = (publications h).getLast?.getD .idle := by
  induction course with
  | start => rfl
  | step _ last ih =>
    rw [publications, List.filterMap_append, List.getLast?_append]
    rcases loop_of_step last with spares | ⟨policy, -, rfl, rfl⟩ | passes
    · rcases spares.lifecycle_eq with ⟨rfl, hlifecycle⟩ | ⟨rfl, hlifecycle, -⟩
      · rw [hlifecycle, ih]
        rfl
      · rw [hlifecycle]
        rfl
    · rw [ih]
      rfl
    · obtain ⟨l, l', records, s, -, -, -, -, -, rfl, rfl⟩ := passes
      rw [Situation.follow, foldl_record_publications, ih, Option.getD_or]
      rfl

theorem Course.published_of_exhausted {channels : Ring Channel} {operand : Watch T}
    {h : List (Deed T)} {w : Situation T} {n : UInt32} (course : Course channels operand h w)
    (hvalue : w.connection.lifecycle.value = .exhausted n) :
    .published (.exhausted n) ∈ h.filterMap Deed.event? := by
  rw [course.lifecycle_eq] at hvalue
  cases hlast : (publications h).getLast? with
  | none => simp [hlast] at hvalue
  | some state =>
    obtain rfl : state = .exhausted n := by simpa [hlast] using hvalue
    obtain ⟨deed, hdeed, hpublication⟩ := List.mem_filterMap.mp (List.mem_of_getLast? hlast)
    refine List.mem_filterMap.mpr ⟨deed, hdeed, ?_⟩
    cases deed with
    | closed => cases hpublication
    | loop e =>
      cases e with
      | published state =>
        obtain rfl := Option.some.inj hpublication
        rfl
      | _ => cases hpublication

/-- A loop that publishes that the connection is exhausted is over, and publishes nothing after
it. -/
theorem exhausted_of_passage (w : Situation T) {l l' : Loop T} {records : List (Loop.Record T)}
    {s : Loop.Sight T} {n : UInt32} (passage : Loop.Passage s l records l')
    (hpublished : .published (.exhausted n) ∈ records.filterMap Loop.Record.event?) :
    l'.wait = .finished ∧ (w.follow l' records).connection.lifecycle.value = .exhausted n := by
  cases passage with
  | refuse _ hafter | releaseFailed _ hafter =>
    cases hafter with
    | rest | stop => simp [Loop.Record.event?] at hpublished
    | giveUp m =>
      obtain rfl : m = n := by simpa [Loop.Record.event?, eq_comm] using hpublished
      exact ⟨rfl, rfl⟩
  | _ => simp [Loop.Record.event?] at hpublished

/-- **A connection that was published as exhausted stays exhausted.** -/
theorem Course.exhausted_of_published {channels : Ring Channel} {operand : Watch T}
    {h : List (Deed T)} {w : Situation T} {n : UInt32} (course : Course channels operand h w)
    (hpublished : .published (.exhausted n) ∈ h.filterMap Deed.event?) :
    w.connection.lifecycle.value = .exhausted n ∧ Settled w := by
  induction course with
  | start => cases hpublished
  | step _ last ih =>
    rw [List.filterMap_append, List.mem_append] at hpublished
    rcases hpublished with hbefore | hlast
    · obtain ⟨hvalue, hsettled⟩ := ih hbefore
      obtain ⟨-, hvalue', hsettled'⟩ := hsettled.step (by rw [hvalue]; rfl) last
      exact ⟨hvalue'.trans hvalue, hsettled'⟩
    · rcases loop_of_step last with spares | ⟨policy, -, rfl, rfl⟩ | passes
      · rw [spares.filterMap_event?] at hlast
        cases hlast
      · cases hlast
      · obtain ⟨l, l', records, s, -, passage, -, -, -, rfl, rfl⟩ := passes
        rw [filterMap_event?_loop] at hlast
        obtain ⟨hfinished, hvalue⟩ := exhausted_of_passage _ passage hlast
        refine ⟨hvalue, ?_⟩
        simp only [Settled, Situation.follow, foldl_record_loop]
        exact .inl (by rw [Loop.isRunning, hfinished])

/-- An established channel is current, and published as connected; no other is, unless the loop
broke down. -/
def Current (events : List (Loop.Event T)) (w : Situation T) : Prop :=
  match w.connection.loop with
  | none => w.connection.current = none
  | some l =>
    match l.wait with
    | .serving c | .applying c _ =>
      w.connection.current = some c ∧ w.connection.lifecycle.value = .connected l.generation
    | .crashed => ∀ c, w.connection.current = some c → Loop.Live events c ∧
        (w.connection.lifecycle.value = .connected l.generation ∨
          w.connection.lifecycle.value = .closed)
    | _ => w.connection.current = none

section Current

variable {events : List (Loop.Event T)} {w w' : Situation T} {l l' : Loop T}
  {records : List (Loop.Record T)} {s : Loop.Sight T} {deeds : List (Deed T)}

/-- The loop waits neither on an established channel nor after a call that broke down. -/
def isAway (l : Loop T) : Bool :=
  match l.wait with
  | .serving _ | .applying _ _ | .crashed => false
  | _ => true

theorem Current.eq_none (current : Current events w) (hloop : w.connection.loop = some l)
    (haway : isAway l = true) : w.connection.current = none := by
  simp only [Current, hloop] at current
  cases hwait : l.wait with
  | serving | applying | crashed => simp [isAway, hwait] at haway
  | _ => simpa [hwait] using current

/-- **What is current follows the loop passage by passage.** -/
theorem Current.follow (current : Current events w) (hloop : w.connection.loop = some l)
    (announcing : Loop.Announcing events l) (passage : Loop.Passage s l records l') :
    Current (events ++ records.filterMap Loop.Record.event?) (w.follow l' records) := by
  have hnone := current.eq_none hloop
  cases passage with
  | stay =>
    have hw : w.follow l [] = w := by
      simp only [Situation.follow, List.filterMap_nil, List.foldl_nil, ← hloop]
    rw [hw, List.filterMap_nil, List.append_nil]
    exact current
  | attempt hwait | attemptStopped hwait | stop hwait =>
    exact hnone (by rcases hwait with hwait | hwait <;> rw [isAway, hwait])
  | replay _ hwait | obtainStopped _ hwait | replayStopped hwait | replayRejected _ hwait
  | releaseStopped hwait =>
    exact hnone (by rw [isAway, hwait])
  | refuse hwait hafter | releaseFailed hwait hafter =>
    have hcurrent := hnone (by rw [isAway, hwait])
    cases hafter <;> exact hcurrent
  | establish => exact ⟨rfl, rfl⟩
  | withdraw | orphan | lose | reject => exact (rfl : (none : Option Channel) = none)
  | apply hwait | accept hwait =>
    simp only [Current, hloop, hwait] at current
    exact current
  | crash hcalling =>
    have presents := announcing.presents
    rw [List.filterMap_nil, List.append_nil]
    intro c hcurrent
    have hcurrent : w.connection.current = some c := hcurrent
    cases hwait : l.wait with
    | serving c' | applying c' =>
      simp only [Current, hloop, hwait] at current
      obtain rfl := Option.some.inj (hcurrent.symm.trans current.1)
      rw [Loop.Presents, hwait] at presents
      exact ⟨presents, .inl current.2⟩
    | creating | replaying | releasing =>
      rw [hnone (by rw [isAway, hwait])] at hcurrent
      cases hcurrent
    | _ => simp [Loop.isCalling, hwait] at hcalling

/-- A caller changes nothing about it, unless a call to close publishes the closed state after the
loop broke down. -/
theorem Current.spare (current : Current events w) (spares : Spares w deeds w')
    (hpatient : .closed ∈ deeds → w.connection.isAwaited = false) : Current events w' := by
  obtain ⟨hloop, hcurrent, -, hlifecycle⟩ := spares
  simp only [Current, hloop, hcurrent] at current ⊢
  rcases hlifecycle with ⟨-, hlifecycle⟩ | ⟨rfl, hlifecycle, hclaimed⟩
  · rwa [hlifecycle]
  · cases hl : w.connection.loop with
    | none => simpa [hl] using current
    | some l =>
      -- The loop is over, because the call that took charge of it has returned.
      have hover : l.isRunning = false := by
        have hreturned := hpatient List.mem_cons_self
        simpa [isAwaited, hclaimed (by rw [hl]; rfl), isRunning, hl] using hreturned
      simp only [hl] at current ⊢
      cases hwait : l.wait with
      | crashed =>
        simp only [hwait] at current ⊢
        exact fun c hc => ⟨(current c hc).1, .inr (by rw [hlifecycle]; rfl)⟩
      | finished => simpa [hwait] using current
      | _ => simp [Loop.isRunning, hwait] at hover

/-- A current channel is live, and its generation is published unless the loop broke down. -/
theorem Current.live (current : Current events w)
    (hannouncing : ∀ l, w.connection.loop = some l → Loop.Announcing events l) {c : Channel}
    (hc : w.connection.current = some c) :
    Loop.Live events c ∧
      (w.connection.lifecycle.value = .connected (Loop.announcements events).length ∨
        w.connection.isCrashed = true ∧ w.connection.lifecycle.value = .closed) := by
  cases hloop : w.connection.loop with
  | none =>
    simp only [Current, hloop, hc] at current
    cases current
  | some l =>
    obtain ⟨-, hgeneration, -, presents⟩ := hannouncing l hloop
    rw [← hgeneration]
    simp only [Current, hloop] at current
    cases hwait : l.wait with
    | serving c' | applying c' =>
      simp only [hwait, Loop.Presents] at current presents
      obtain rfl := Option.some.inj (hc.symm.trans current.1)
      exact ⟨presents, .inl current.2⟩
    | crashed =>
      simp only [hwait] at current
      have hcrashed : w.connection.isCrashed = true := by
        simp only [isCrashed, hloop, Option.map_some, hwait]
      obtain ⟨hlive, hstate⟩ := current c hc
      exact ⟨hlive, hstate.imp_right fun hclosed => ⟨hcrashed, hclosed⟩⟩
    | _ =>
      simp only [hwait, hc] at current
      cases current

end Current

/-- A patient call to close that publishes the closed state finds the loop over. -/
theorem isAwaited_of_closed_mem {w w' : Situation T} {move : Move T} {deeds : List (Deed T)}
    (h : w.play? move = some (deeds, w')) (hpatient : Turn.isPatient ⟨w, move, deeds⟩ = true)
    (hclosed : .closed ∈ deeds) : w.connection.isAwaited = false := by
  cases played_of_play? h with
  | close => simpa [Turn.isPatient] using hpatient
  | start | drop | publish | orphan => cases hclosed
  | look | hear => simp at hclosed

/-- What observers are shown agrees with what happened. -/
structure Announces (turns : List (Turn T)) (w : Situation T) : Prop where
  /-- Observers are told of every channel that the loop establishes, in this order. -/
  announced_eq : w.connection.channels.announced =
    (Loop.announcements (events turns)).map Prod.fst
  /-- The announcements carry the generations in turn, -/
  numbered : (Loop.announcements (events turns)).map Prod.snd =
    List.range' 1 w.connection.channels.announced.length
  /-- and each generation is published as connected once. -/
  connected_eq : Loop.generations (publications (deedsOf turns)) =
    List.range' 1 w.connection.channels.announced.length
  /-- A channel is announced when it has taken the operand that it was given first, and the
  connection is published just after that. -/
  ready : Throughout Loop.Ready (events turns)
  /-- As long as no operand is taken after the loop got a channel, nothing is announced or
  current. -/
  unready : ∀ earlier c later, events turns = earlier ++ .obtained c :: later →
    (∀ c' x, .accepted c' x ∉ later) →
      Loop.announcements later = [] ∧ w.connection.current = none
  /-- A current channel was announced last, is not given up, and is the one of the generation that
  is published, unless the loop broke down and the closed state is published. -/
  current : ∀ c, w.connection.current = some c → Loop.Live (events turns) c ∧
    w.connection.channels.announced.getLast? = some c ∧
    Loop.obtained (events turns) = Loop.givenUp (events turns) ++ [c] ∧
    (w.connection.lifecycle.value = .connected w.connection.channels.announced.length ∨
      w.connection.isCrashed = true ∧ w.connection.lifecycle.value = .closed)

section Run

variable {history : Nat} {operand : T} {turns : List (Turn T)} {w : Situation T}

/-- The history of a connection is that of its loop, so the loop announces what is ready in it. -/
theorem Run.announcing (run : Run history operand turns w) {l : Loop T}
    (hloop : w.connection.loop = some l) : Loop.Announcing (events turns) l := by
  rcases run.loop_course with ⟨hnone, -⟩ | ⟨l', policy, records, hl', course, hrecords⟩
  · rw [hnone] at hloop
    cases hloop
  · obtain rfl := Option.some.inj (hloop.symm.trans hl')
    rw [← hrecords]
    exact course.announcing

theorem Run.announced_eq (run : Run history operand turns w) :
    w.connection.channels.announced = (Loop.announcements (events turns)).map Prod.fst := by
  induction run with
  | start => rfl
  | step _ last ih =>
    obtain ⟨move, deeds, hplay, rfl⟩ := last
    rw [events_concat, Loop.announcements_append, List.map_append]
    rcases loop_of_step (step_of_play? hplay) with spares | ⟨policy, -, rfl, rfl⟩ | passes
    · rw [spares.channels_eq, spares.filterMap_event?, ih]
      exact (List.append_nil _).symm
    · rw [ih]
      exact (List.append_nil _).symm
    · obtain ⟨l, l', records, s, -, -, -, -, -, rfl, rfl⟩ := passes
      rw [filterMap_event?_loop, ← ih, Situation.follow, foldl_record_announced]

/-- What is current agrees with the loop, as long as no two calls to close overlap. -/
theorem Run.current (run : Run history operand turns w)
    (patient : ∀ t ∈ turns, t.isPatient = true) :
    Current (events turns) w := by
  induction run with
  | start => exact (rfl : (none : Option Channel) = none)
  | @step turns w _ w' before last ih =>
    obtain ⟨move, deeds, hplay, rfl⟩ := last
    have current := ih fun t ht => patient t (List.mem_append_left _ ht)
    rw [events_concat]
    rcases loop_of_step (step_of_play? hplay) with spares | ⟨policy, hloop, rfl, rfl⟩ | passes
    · rw [spares.filterMap_event?, List.append_nil]
      have hpatient := patient _ (List.mem_append_right _ List.mem_cons_self)
      exact current.spare spares (isAwaited_of_closed_mem hplay hpatient)
    · simp only [Current, hloop] at current
      exact current
    · obtain ⟨l, l', records, s, hloop, passage, -, -, -, rfl, rfl⟩ := passes
      rw [filterMap_event?_loop]
      exact current.follow hloop (Run.announcing before hloop) passage

/-- **Observers are shown one channel after another, each when it is ready.** In every run in which
no call to close comes before an earlier one has returned: the announcements are numbered from one,
each is made when the channel has taken its first operand, and is the one that the connected state
of that number tells of; a channel that has not taken an operand is neither announced nor current;
and the current channel is the last announced, is not given up, and its generation is published,
unless the loop broke down and the closed state is published after that. -/
theorem Run.announces (run : Run history operand turns w)
    (patient : ∀ t ∈ turns, t.isPatient = true) :
    Announces turns w := by
  have announced := run.announced_eq
  have current := run.current patient
  have ready : Throughout Loop.Ready (events turns) := by
    rcases run.loop_course with ⟨-, hnone⟩ | ⟨l, -, -, hloop, -, -⟩
    · rw [hnone]
      exact throughout_nil _
    · exact (run.announcing hloop).ready
  have hlength : w.connection.channels.announced.length =
      (Loop.announcements (events turns)).length := by rw [announced, List.length_map]
  have live (c : Channel) (hc : w.connection.current = some c) :
      Loop.Live (events turns) c ∧
        (w.connection.lifecycle.value = .connected w.connection.channels.announced.length ∨
          w.connection.isCrashed = true ∧ w.connection.lifecycle.value = .closed) := by
    rw [hlength]
    exact current.live (fun _ hloop => run.announcing hloop) hc
  constructor
  case announced_eq => exact announced
  case numbered =>
    rw [hlength]
    exact Loop.map_snd_announcements ready
  case connected_eq =>
    rw [generations_publications, hlength, ← Loop.map_snd_announcements ready]
    rcases run.loop_course with ⟨-, hnone⟩ | ⟨l, -, -, hloop, -, -⟩
    · rw [events] at hnone
      rw [events, hnone]
      rfl
    · exact (run.announcing hloop).connected_eq
  case ready => exact ready
  case unready =>
    intro earlier c later hevents huntaken
    rw [hevents] at ready live
    refine ⟨Loop.announcements_eq_nil ready huntaken, ?_⟩
    cases hcurrent : w.connection.current with
    | none => rfl
    | some c' =>
      have htaken := (live c' hcurrent).1.hasTaken_eq
      rw [Loop.hasTaken_eq_false huntaken] at htaken
      cases htaken
  case current =>
    intro c hc
    obtain ⟨hlive, hstate⟩ := live c hc
    refine ⟨hlive, ?_, hlive.obtained_eq run.keeps.1, hstate⟩
    rw [announced]
    exact hlive.getLast?_announcements

end Run

/-- The first channel rejects its operand; the second is established and takes another one. -/
theorem announces_after_rejection :
    ∃ (turns : List (Turn Nat)) (w : Situation Nat), Run 4 0 turns w ∧
      (∀ t ∈ turns, t.isPatient = true) ∧ w.connection.current = some ⟨1, none⟩ ∧
      w.connection.lifecycle.value = .connected 1 ∧ Announces turns w := by
  have started := Run.play (.start : Run 4 0 [] _) (.start {}) rfl
  have obtained := (started.play (.look none) rfl).play (.hear (.created ⟨0, none⟩)) rfl
  have rejected := obtained.play (.hear (.rejected (.changeRejected "busy"))) rfl
  have again := (rejected.play (.hear .released) rfl).play (.hear .elapsed) rfl
  have replayed := again.play (.hear (.created ⟨1, none⟩)) rfl
  have established := (replayed.play (.hear .applied) rfl).play (.publish 1) rfl
  have run := (established.play (.look none) rfl).play (.hear .applied) rfl
  refine ⟨_, _, run, ?_, rfl, rfl, run.announces ?_⟩
  all_goals exact List.all_eq_true.mp rfl

/-- The loop breaks down while it applies a second operand. The first call to close waits for its
end and leaves the connected state; the second one publishes the closed state, and the channel is
still current. -/
theorem current_after_breakdown :
    ∃ (turns : List (Turn Nat)) (w : Situation Nat) (c : Channel), Run 4 0 turns w ∧
      (∀ t ∈ turns, t.isPatient = true) ∧ w.connection.current = some c ∧
      w.connection.lifecycle.value = .closed := by
  have started := Run.play (.start : Run 4 0 [] _) (.start {}) rfl
  have obtained := (started.play (.look none) rfl).play (.hear (.created ⟨0, none⟩)) rfl
  have established := (obtained.play (.hear .applied) rfl).play (.publish 1) rfl
  have broken := (established.play (.look none) rfl).play (.hear .broke) rfl
  have run := (broken.play .close rfl).play .close rfl
  exact ⟨_, _, _, run, List.all_eq_true.mp rfl, rfl, rfl⟩

end InterestMux.Connection
