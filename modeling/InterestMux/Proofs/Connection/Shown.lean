import InterestMux.Proofs.Connection.Conclusion
import InterestMux.Proofs.Connection.Run
import InterestMux.Proofs.Loop.Announcements

/-!
# Connected states and current channels

A connection says in two places that a channel is live: it publishes that it is connected, and it
has a current channel. The loop sets the two together, but takes them back apart: it withdraws the
current channel before it releases it, and publishes another state only when the release is
complete. So while a channel is being released the connection is still published as connected, and
has no current channel. Apart from that the two agree, whatever the callers do.

## Main definitions

* `Loop.established?` : the established channel that the loop has not begun to release.
* `Connection.Shows` : what a connection shows, where its loop waits.
* `Connection.IsCalm` : no call of the loop breaks down.

## Main results

* `Connection.Run.shown` : what every connection shows.
* `Connection.Run.connected_spec` : a connected state comes with the current channel of its
  generation, except while this is being released.
-/

namespace InterestMux

namespace Loop

variable {T : Type} {l : Loop T} {c : Channel}

/-- The established channel that the loop has not begun to release. -/
def established? (l : Loop T) : Option Channel :=
  match l.wait with
  | .serving c | .applying c _ => some c
  | _ => none

theorem established?_eq_none (hleaving : l.leaving? = some c) : l.established? = none := by
  cases hwait : l.wait <;> simp [leaving?, established?, hwait] at hleaving ⊢

theorem leaving?_eq_none (hestablished : l.established? = some c) : l.leaving? = none := by
  cases hwait : l.wait <;> simp [leaving?, established?, hwait] at hestablished ⊢

theorem established?_of_wait (hwait : l.wait = .serving c ∨ ∃ x, l.wait = .applying c x) :
    l.established? = some c := by
  rcases hwait with hwait | ⟨x, hwait⟩ <;> rw [established?, hwait]

end Loop

namespace Connection

variable {T : Type}

/-! ### What is shown -/

/-- The current channel is the established one. A connected state is that of the channel announced
last, which is established or is being released. -/
structure Shows (events : List (Loop.Event T)) (c : Connection T) (l : Loop T) : Prop where
  current_eq : c.current = l.established?
  connected : ∀ g, c.lifecycle.value = .connected g →
    ∃ channel, (Loop.announcements events).getLast? = some (channel, g) ∧
      (l.established? = some channel ∨ l.leaving? = some channel)

section Shows

variable {events later : List (Loop.Event T)} {c : Connection T} {w : Situation T} {l l' : Loop T}
  {s : Loop.Sight T} {records : List (Loop.Record T)}

theorem Shows.of_not_connected (hcurrent : c.current = l.established?)
    (hstate : c.lifecycle.value.isConnected = false) : Shows events c l :=
  ⟨hcurrent, fun g hg => by simp [hg, ConnectionState.isConnected] at hstate⟩

theorem Shows.quiet (shows : Shows events c l) (hestablished : l.established? = none)
    (hleaving : l.leaving? = none) : c.current = none ∧ c.lifecycle.value.isConnected = false := by
  refine ⟨shows.current_eq.trans hestablished, ?_⟩
  cases hstate : c.lifecycle.value with
  | connected g =>
    obtain ⟨channel, -, h | h⟩ := shows.connected g hstate
    · simp [hestablished] at h
    · simp [hleaving] at h
  | _ => rfl

theorem Shows.keep (shows : Shows events w.connection l)
    (hsame : (w.follow l' records).connection.lifecycle = w.connection.lifecycle)
    (hcurrent : (w.follow l' records).connection.current = w.connection.current)
    (hnews : Loop.announcements (records.filterMap Loop.Record.event?) = [])
    (hestablished : l'.established? = l.established?) (hleaving : l.leaving? = none) :
    Shows (events ++ records.filterMap Loop.Record.event?) (w.follow l' records).connection l' := by
  refine ⟨by rw [hcurrent, hestablished, shows.current_eq], fun g hg => ?_⟩
  rw [hsame] at hg
  obtain ⟨channel, hlast, h⟩ := shows.connected g hg
  rw [Loop.announcements_append, hnews, List.append_nil, hestablished]
  exact ⟨channel, hlast, .inl (h.resolve_right (by simp [hleaving]))⟩

/-- The loop begins to release its established channel: the state stays as it is. -/
theorem Shows.leave {channel : Channel} (shows : Shows events w.connection l)
    (hsame : (w.follow l' records).connection.lifecycle = w.connection.lifecycle)
    (hcurrent : (w.follow l' records).connection.current = none)
    (hnews : Loop.announcements (records.filterMap Loop.Record.event?) = [])
    (hwait : l.wait = .serving channel ∨ ∃ x, l.wait = .applying channel x)
    (hleaving : l'.leaving? = some channel) :
    Shows (events ++ records.filterMap Loop.Record.event?) (w.follow l' records).connection l' := by
  have hestablished := Loop.established?_of_wait hwait
  refine ⟨hcurrent.trans (Loop.established?_eq_none hleaving).symm, fun g hg => ?_⟩
  rw [hsame] at hg
  obtain ⟨channel', hlast, h⟩ := shows.connected g hg
  have hsome := h.resolve_right (by simp [Loop.leaving?_eq_none hestablished])
  obtain rfl := Option.some.inj (hestablished.symm.trans hsome)
  rw [Loop.announcements_append, hnews, List.append_nil]
  exact ⟨channel, hlast, .inr hleaving⟩

/-- What a connection shows follows its loop passage by passage, unless a call breaks down. -/
theorem Shows.follow (shows : Shows events w.connection l) (passage : Loop.Passage s l records l')
    (hloop : w.connection.loop = some l) (hlive : l'.wait ≠ .crashed) :
    Shows (events ++ records.filterMap Loop.Record.event?) (w.follow l' records).connection l' := by
  cases passage with
  | stay =>
    have hw : w.follow l [] = w := by
      simp only [Situation.follow, List.filterMap_nil, List.foldl_nil, ← hloop]
    rw [hw, List.filterMap_nil, List.append_nil]
    exact shows
  | attempt hwait | attemptStopped hwait | stop hwait =>
    have hquiet : w.connection.current = none :=
      (shows.quiet (by rcases hwait with hwait | hwait <;> rw [Loop.established?, hwait])
        (by rcases hwait with hwait | hwait <;> rw [Loop.leaving?, hwait])).1
    exact .of_not_connected hquiet rfl
  | refuse hwait hafter =>
    have hquiet := (shows.quiet (by rw [Loop.established?, hwait]) (by rw [Loop.leaving?, hwait])).1
    cases hafter <;> exact .of_not_connected hquiet rfl
  | replay _ hwait | obtainStopped _ hwait | replayStopped hwait | replayRejected _ hwait =>
    have hquiet := shows.quiet (by rw [Loop.established?, hwait]) (by rw [Loop.leaving?, hwait])
    exact .of_not_connected hquiet.1 hquiet.2
  | @establish c x hwait =>
    refine ⟨rfl, fun g hg => ⟨c, ?_, .inl rfl⟩⟩
    obtain rfl : l.generation + 1 = g := ConnectionState.connected.inj hg
    rw [Loop.announcements_append]
    exact List.getLast?_concat
  | withdraw hwait | lose _ hwait => exact shows.leave rfl rfl rfl hwait rfl
  | orphan hwait => exact shows.leave rfl rfl rfl (.inl hwait) rfl
  | reject _ hwait => exact shows.leave rfl rfl rfl (.inr ⟨_, hwait⟩) rfl
  | apply hwait | accept hwait =>
    exact shows.keep rfl rfl rfl (by rw [Loop.established?, Loop.established?, hwait])
      (by rw [Loop.leaving?, hwait])
  | releaseStopped hwait =>
    have hcurrent : w.connection.current = none := by
      rw [shows.current_eq, Loop.established?, hwait]
    exact .of_not_connected hcurrent rfl
  | releaseFailed hwait hafter =>
    have hcurrent : w.connection.current = none := by
      rw [shows.current_eq, Loop.established?, hwait]
    cases hafter <;> exact .of_not_connected hcurrent rfl
  | crash => exact absurd rfl hlive

/-- A caller changes nothing about it: all that it can publish is the closed state. -/
theorem Shows.spare {w' : Situation T} {deeds : List (Deed T)} (shows : Shows events w.connection l)
    (spares : Spares w deeds w') : Shows events w'.connection l := by
  obtain ⟨-, hcurrent, -, ⟨-, hstate⟩ | ⟨-, hstate, -⟩⟩ := spares
  · exact ⟨hcurrent.trans shows.current_eq, fun g hg => shows.connected g (by rw [← hstate, hg])⟩
  · exact .of_not_connected (hcurrent.trans shows.current_eq) (by rw [hstate]; rfl)

end Shows

/-! ### Runs -/

/-- No call of the loop breaks down. -/
def IsCalm (turns : List (Turn T)) : Prop :=
  ∀ t ∈ turns, t.move ≠ .hear .broke

section Run

variable {history : Nat} {operand : T} {turns : List (Turn T)} {w : Situation T} {l : Loop T}

theorem Run.isCrashed_eq_false (run : Run history operand turns w) :
    IsCalm turns → w.connection.isCrashed = false := by
  induction run with
  | start => exact fun _ => rfl
  | @step turns w _ w' before last ih =>
    obtain ⟨move, deeds, hplay, rfl⟩ := last
    intro calm
    have hlive := ih fun t ht => calm t (List.mem_append_left _ ht)
    have hmove : move ≠ .hear .broke := calm ⟨w, move, deeds⟩ (by simp)
    cases played_of_play? hplay with
    | start policy =>
      rw [Connection.start]
      split
      · rfl
      · exact hlive
    | close =>
      rw [isCrashed_eq_false_iff] at hlive ⊢
      rwa [loop_close]
    | drop | publish | orphan => exact hlive
    | look hnotice => exact isCrashed_of_notice? hnotice
    | hear r => exact isCrashed_answer (fun hr => hmove (hr ▸ rfl)) hlive

theorem Run.wait_ne_crashed (run : Run history operand turns w) (calm : IsCalm turns)
    (hloop : w.connection.loop = some l) : l.wait ≠ .crashed :=
  isCrashed_eq_false_iff.mp (run.isCrashed_eq_false calm) l hloop

/-- A connection without a loop shows no channel. One with a loop shows what the loop has, unless a
call broke down. -/
theorem Run.shown (run : Run history operand turns w) :
    (w.connection.loop = none →
        w.connection.current = none ∧ w.connection.lifecycle.value.isConnected = false) ∧
      ∀ l, w.connection.loop = some l → l.wait ≠ .crashed →
        Shows (events turns) w.connection l := by
  induction run with
  | start => exact ⟨fun _ => ⟨rfl, rfl⟩, fun l hl => nomatch hl⟩
  | @step turns w _ w' before last ih =>
    obtain ⟨move, deeds, hplay, rfl⟩ := last
    obtain ⟨hnone, hshows⟩ := ih
    rw [events_concat]
    rcases loop_of_step (step_of_play? hplay) with spares | ⟨policy, hloop, rfl, rfl⟩ | passes
    · rw [spares.loop_eq, spares.filterMap_event?, List.append_nil]
      refine ⟨fun hloop => ?_, fun l hl hlive => (hshows l hl hlive).spare spares⟩
      obtain ⟨hcurrent, hstate⟩ := hnone hloop
      refine ⟨spares.current_eq.trans hcurrent, ?_⟩
      rcases spares.lifecycle_eq with ⟨-, hsame⟩ | ⟨-, hclosed, -⟩
      · rwa [hsame]
      · rw [hclosed]
        rfl
    · obtain ⟨hcurrent, hstate⟩ := hnone hloop
      refine ⟨fun hl => by simp at hl, fun l hl _ => ?_⟩
      obtain rfl := Option.some.inj hl
      exact .of_not_connected hcurrent hstate
    · obtain ⟨l, l', records, s, hloop, passage, -, -, -, rfl, rfl⟩ := passes
      rw [filterMap_event?_loop]
      have hl' : (w.follow l' records).connection.loop = some l' := foldl_record_loop _ _
      refine ⟨fun hl => by simp [hl'] at hl, fun l₁ hl₁ hlive => ?_⟩
      obtain rfl := Option.some.inj (hl'.symm.trans hl₁)
      have hbefore : l.wait ≠ .crashed := fun hcrashed => by
        obtain ⟨rfl, -⟩ := passage.of_not_running (by rw [Loop.isRunning, hcrashed])
        exact hlive hcrashed
      exact (hshows l hloop hbefore).follow passage hloop hlive

/-- **A connected state comes with the current channel of its generation, except while this is
being released.** Whenever a state is published as connected, the loop holds the channel of that
generation, the last that was announced, or waits for its release. If it holds the channel, this is
the current one; if it waits for the release, however long, there is no current channel. -/
theorem Run.connected_spec (run : Run history operand turns w) (calm : IsCalm turns) {g : Nat}
    (hstate : w.connection.lifecycle.value = .connected g) :
    ∃ l c, w.connection.loop = some l ∧
      (Loop.announcements (events turns)).getLast? = some (c, g) ∧
      (l.leaving? = none ∧ w.connection.current = some c ∨
        l.leaving? = some c ∧ w.connection.current = none) := by
  obtain ⟨hnone, hshows⟩ := run.shown
  cases hloop : w.connection.loop with
  | none =>
    have hnot := (hnone hloop).2
    rw [hstate] at hnot
    cases hnot
  | some l =>
    have shows := hshows l hloop (run.wait_ne_crashed calm hloop)
    obtain ⟨c, hlast, hestablished | hleaving⟩ := shows.connected g hstate
    · exact ⟨l, c, rfl, hlast, .inl ⟨Loop.leaving?_eq_none hestablished,
        shows.current_eq.trans hestablished⟩⟩
    · exact ⟨l, c, rfl, hlast, .inr ⟨hleaving,
        shows.current_eq.trans (Loop.established?_eq_none hleaving)⟩⟩

end Run

/-- A second channel replaces one whose session has ended; its state comes with it. -/
theorem connected_after_reconnect :
    ∃ (turns : List (Turn Nat)) (w : Situation Nat), Run 4 0 turns w ∧ IsCalm turns ∧
      w.connection.lifecycle.value = .connected 2 ∧
      ∃ l c, w.connection.loop = some l ∧
        (Loop.announcements (events turns)).getLast? = some (c, 2) ∧
        (l.leaving? = none ∧ w.connection.current = some c ∨
          l.leaving? = some c ∧ w.connection.current = none) := by
  have started := Run.play (.start : Run 4 0 [] _) (.start {}) rfl
  have obtained := (started.play (.look none) rfl).play (.hear (.created ⟨0, none⟩)) rfl
  have lost := (obtained.play (.hear .applied) rfl).play (.look (some .completed)) rfl
  have again := (lost.play (.hear .released) rfl).play (.hear .elapsed) rfl
  have run := (again.play (.hear (.created ⟨1, none⟩)) rfl).play (.hear .applied) rfl
  refine ⟨_, _, run, ?_, rfl, run.connected_spec ?_ rfl⟩
  all_goals simp [IsCalm]

/-- The session of the first channel has ended, and the loop waits for the release of the channel.
It has nothing to do of its own accord, so that others can run; the first generation is published as
connected, and there is no current channel. -/
theorem connected_without_channel :
    ∃ (turns : List (Turn Nat)) (w : Situation Nat), Run 4 0 turns w ∧ IsCalm turns ∧
      (∀ ended, w.connection.notice? w.operand w.supplied ended = none) ∧
      w.connection.lifecycle.value = .connected 1 ∧ w.connection.current = none := by
  have started := Run.play (.start : Run 4 0 [] _) (.start {}) rfl
  have obtained := (started.play (.look none) rfl).play (.hear (.created ⟨0, none⟩)) rfl
  have run := (obtained.play (.hear .applied) rfl).play (.look (some .completed)) rfl
  exact ⟨_, _, run, by simp [IsCalm], fun _ => rfl, rfl, rfl⟩

end Connection

end InterestMux
