import InterestMux.Proofs.Connection.Course
import Mathlib.Tactic.ByContra

/-!
# Operands on the current channel

An operand that is published while the loop is busy, resting, or without a channel is not lost.
What the loop hands to a channel is the latest operand, and it remembers the version; a later
publication makes the version old, and then a loop that is idle has something to do. So an idle
loop that has nothing to do has handed over the latest operand, and its channel has taken it.

## Main definitions

* `Connection.acceptances` : the operands that channels have taken.
* `Connection.Tracks` : what the loop knows about the latest operand at each point.

## Main results

* `Connection.Tracks.follow` : the loop keeps track passage by passage.
* `Connection.Course.tracks` : so do the loops of all connections.
* `Connection.Tracks.of_idle` : an idle channel has taken the latest operand last.
-/

namespace InterestMux.Connection

variable {T : Type}

/-- The operands that channels have taken, oldest first. -/
def acceptances (events : List (Loop.Event T)) : List (Channel × T) :=
  events.filterMap fun
    | .accepted c x => some (c, x)
    | _ => none

theorem acceptances_append (events later : List (Loop.Event T)) :
    acceptances (events ++ later) = acceptances events ++ acceptances later :=
  List.filterMap_append

/-- Unless there is a later one, the operand is the latest. -/
def Fresh (w : Situation T) (l : Loop T) (x : T) : Prop :=
  l.seen = w.operand.version → x = w.operand.value

/-- The loop has seen no version that is still to come. The operand that is under way, or was
taken last, is the latest unless there is a later one. An established channel is the current. -/
def Tracks (events : List (Loop.Event T)) (w : Situation T) : Prop :=
  ∀ l, w.connection.loop = some l → l.seen ≤ w.operand.version ∧
    match l.wait with
    | .replaying _ x => Fresh w l x
    | .applying c x => w.connection.current = some c ∧ Fresh w l x
    | .serving c =>
      w.connection.current = some c ∧
        ∃ x, (acceptances events).getLast? = some (c, x) ∧ Fresh w l x
    | _ => True

/-- A loop that is at no point with an operand only has to have seen no version to come. -/
theorem tracks_follow_of_seen_le {events : List (Loop.Event T)} {w : Situation T} {l : Loop T}
    {deeds : List (Loop.Record T)} (hseen : l.seen ≤ w.operand.version)
    (hwait : l.channel? = none) : Tracks events (w.follow l deeds) := by
  intro l' hloop
  obtain rfl : l = l' := by simpa [Situation.follow] using hloop
  refine ⟨hseen, ?_⟩
  cases h : l.wait <;> simp [Loop.channel?, h] at hwait ⊢

/-- **The loop keeps track of the operands passage by passage.** -/
theorem Tracks.follow {events : List (Loop.Event T)} {w : Situation T} {l l' : Loop T}
    {deeds : List (Loop.Record T)} {s : Loop.Sight T} (htracks : Tracks events w)
    (hloop : w.connection.loop = some l) (hoperand : s.operand = w.operand)
    (hpassage : Loop.Passage s l deeds l') :
    Tracks (events ++ deeds.filterMap Loop.Record.event?) (w.follow l' deeds) := by
  obtain ⟨hseen, hknows⟩ := htracks l hloop
  cases hpassage with
  | stay =>
    rw [List.filterMap_nil, List.append_nil]
    intro l' hl'
    obtain rfl : l = l' := by simpa [Situation.follow] using hl'
    exact ⟨hseen, hknows⟩
  | replay c hwait hlive =>
    rintro _ ⟨⟩
    rw [hoperand]
    exact ⟨Nat.le_refl _, fun _ => rfl⟩
  | @establish c x hwait =>
    rw [hwait] at hknows
    rintro _ ⟨⟩
    refine ⟨hseen, rfl, x, ?_, hknows⟩
    rw [acceptances_append]
    exact List.getLast?_concat
  | apply hwait hlive hsession hchanged =>
    rw [hwait] at hknows
    rintro _ ⟨⟩
    rw [hoperand]
    exact ⟨Nat.le_refl _, hknows.1, fun _ => rfl⟩
  | @accept c x hwait =>
    rw [hwait] at hknows
    rintro _ ⟨⟩
    refine ⟨hseen, hknows.1, x, ?_, hknows.2⟩
    rw [acceptances_append]
    exact List.getLast?_concat
  | obtainStopped =>
    refine tracks_follow_of_seen_le (Nat.le_of_eq ?_) rfl
    rw [hoperand]
  | refuse _ hafter | releaseFailed _ hafter =>
    cases hafter <;> exact tracks_follow_of_seen_le hseen rfl
  | attempt | attemptStopped | stop | replayStopped | replayRejected | withdraw | orphan | lose
  | reject | releaseStopped | crash => exact tracks_follow_of_seen_le hseen rfl

/-- **The loop of a connection keeps track of the operands**, whatever happens. -/
theorem Course.tracks {channels : Ring Channel} {operand : Watch T} {h : List (Deed T)}
    {w : Situation T} (course : Course channels operand h w) :
    Tracks (h.filterMap Deed.event?) w := by
  induction course with
  | start => exact fun _ hloop => by cases hloop
  | @step h w deeds w' _ last ih =>
    rw [List.filterMap_append]
    cases last with
    | start policy =>
      rw [List.filterMap_nil, List.append_nil]
      intro l hloop
      simp only [Connection.start] at hloop ⊢
      split at hloop
      · obtain rfl := Option.some.inj hloop
        exact ⟨Nat.zero_le _, trivial⟩
      · rename_i hold
        rw [if_neg hold]
        exact ih l hloop
    | close =>
      have hcloses := closes_close w.connection
      generalize w.connection.close.1 = c, w.connection.closeDeeds = deeds at hcloses ⊢
      cases hcloses <;> exact (List.append_nil _).symm ▸ ih
    | cancel | orphan => exact (List.append_nil _).symm ▸ ih
    | publish x =>
      rw [List.filterMap_nil, List.append_nil]
      intro l hloop
      obtain ⟨hseen, hknows⟩ := ih l hloop
      refine ⟨Nat.le_succ_of_le hseen, ?_⟩
      -- The version that the loop has seen is now an old one.
      have hold (y : T) : Fresh { w with operand := w.operand.publish x } l y := fun heq => by
        rw [Watch.publish_version] at heq
        omega
      cases hwait : l.wait <;> simp only [hwait] at hknows ⊢
      case replaying c y => exact hold y
      case applying c y => exact ⟨hknows.1, hold y⟩
      case serving c =>
        obtain ⟨hcurrent, y, hlast, -⟩ := hknows
        exact ⟨hcurrent, y, hlast, hold y⟩
    | notice hnotice =>
      obtain ⟨l, l', records, hloop, -, hstep, hw, hevents⟩ := step_of_notice? hnotice
      rw [hw, hevents, filterMap_event?_loop]
      exact ih.follow hloop rfl hstep.passage
    | answer r hidle =>
      cases hloop : w.connection.loop with
      | none => simpa [answer_of_loop_none hloop] using ih
      | some l =>
        obtain ⟨l', records, hstep, hw, hevents⟩ := step_of_answer hloop r
        rw [hw, hevents, filterMap_event?_loop]
        exact ih.follow hloop rfl hstep.passage

theorem seen_of_idle {w : Situation T} {l : Loop T} {c : Channel} {ended : Option SessionEnd}
    (hloop : w.connection.loop = some l) (hwait : l.wait = .serving c)
    (hidle : w.connection.notice? w.operand w.supplied ended = none) :
    l.seen = w.operand.version := by
  by_contra hne
  have hchanged : w.operand.changedSince l.seen = true := by
    simpa [Watch.changedSince] using Ne.symm hne
  simp only [notice?, hloop, Option.bind_some, Option.map_eq_none_iff, Loop.notice?, hwait, sight,
    hchanged, if_true] at hidle
  cases hcancelled : w.connection.cancelled <;> cases ended <;> simp [hcancelled] at hidle

/-- **An idle channel has taken the latest operand last.** -/
theorem Tracks.of_idle {events : List (Loop.Event T)} {w : Situation T} {l : Loop T} {c : Channel}
    {ended : Option SessionEnd} (htracks : Tracks events w) (hloop : w.connection.loop = some l)
    (hwait : l.wait = .serving c)
    (hidle : w.connection.notice? w.operand w.supplied ended = none) :
    w.connection.current = some c ∧
      (acceptances events).getLast? = some (c, w.operand.value) := by
  obtain ⟨-, hknows⟩ := htracks l hloop
  rw [hwait] at hknows
  obtain ⟨hcurrent, x, hlast, hfresh⟩ := hknows
  refine ⟨hcurrent, ?_⟩
  rw [← hfresh (seen_of_idle hloop hwait hidle)]
  exact hlast

end InterestMux.Connection
