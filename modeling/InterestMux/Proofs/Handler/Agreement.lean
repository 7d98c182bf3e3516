import InterestMux.Proofs.Connection.Operands
import InterestMux.Proofs.Handler.Course
import InterestMux.Proofs.Tracker.Registrations

/-!
# The remote interest agrees with the streams that are held

The registrations of a handler are the interests of the streams that it holds, so the union that it
publishes is theirs. The union is the operand of the connection, and an idle loop has handed over
the latest operand. Together: whenever the loop is idle and has nothing to do, the remote side has
taken the union of the interests of exactly these streams, whatever happened before.

## Main definitions

* `Handler.openInterests` : the interests of the streams that a handler holds.
* `Handler.accepted` : the interests that a channel has taken.

## Main results

* `Handler.Course.holds` : the registrations are the interests of the streams that are held.
* `Handler.Course.agreement_of_idle` : the remote interest agrees with these streams.
-/

namespace InterestMux

/-! ### Interests of lists of streams -/

namespace Stream

variable {α : Type}

/-- The interests of the streams that are held. -/
def heldInterests (streams : List (Stream α)) : List Interest :=
  (streams.filter (·.held)).map (·.interest)

/-- Two states of a stream have its interest in common, and whether it is held. -/
def SameHold (s s' : Stream α) : Prop :=
  s'.interest = s.interest ∧ s'.held = s.held

theorem sameHold_notice? {s s' : Stream α} {lifecycle : Watch ConnectionState} {publishing : Bool}
    (h : s.notice? lifecycle publishing = some s') : SameHold s s' := by
  -- The forwarder moves on, or puts a delivery into the buffer.
  have hforwarder {f : Forwarder α} (h : some { s with forwarder := f } = some s') :
      SameHold s s' := by
    obtain rfl := Option.some.inj h
    exact ⟨rfl, rfl⟩
  simp only [notice?] at h
  split at h
  case h_1 => exact hforwarder h
  case h_2 =>
    split at h
    · exact hforwarder h
    split at h
    · exact hforwarder h
    split at h
    · exact hforwarder h
    · cases h
  case h_3 =>
    split at h
    · exact hforwarder h
    split at h
    · obtain rfl := Option.some.inj h
      exact ⟨rfl, rfl⟩
    · cases h
  case h_4 => cases h

theorem sameHold_pull (s : Stream α) (next : Option (Notification α)) :
    SameHold s (s.pull next) := by
  unfold pull
  split <;> exact ⟨rfl, rfl⟩

theorem sameHold_poll (s : Stream α) : SameHold s s.poll.2 := by
  rw [poll]
  split <;> exact ⟨rfl, rfl⟩

theorem heldInterests_concat (streams : List (Stream α)) {s : Stream α} (hheld : s.held = true) :
    heldInterests (streams ++ [s]) = heldInterests streams ++ [s.interest] := by
  simp [heldInterests, hheld]

theorem heldInterests_cons (s : Stream α) (streams : List (Stream α)) :
    heldInterests (s :: streams) =
      (if s.held then [s.interest] else []) ++ heldInterests streams := by
  cases hheld : s.held <;> simp [heldInterests, hheld]

theorem heldInterests_set {streams : List (Stream α)} {k : Nat} {s s' : Stream α}
    (hk : streams[k]? = some s) (hsame : SameHold s s') :
    heldInterests (streams.set k s') = heldInterests streams := by
  induction streams generalizing k with
  | nil => cases hk
  | cons s₀ streams ih =>
    cases k with
    | zero =>
      obtain rfl : s₀ = s := Option.some.inj hk
      rw [List.set_cons_zero, heldInterests_cons, heldInterests_cons, hsame.1, hsame.2]
    | succ k => rw [List.set_cons_succ, heldInterests_cons, heldInterests_cons, ih hk]

theorem perm_heldInterests_set_drop {streams : List (Stream α)} {k : Nat} {s : Stream α}
    (hk : streams[k]? = some s) (hheld : s.held = true) :
    (heldInterests streams).Perm (s.interest :: heldInterests (streams.set k s.drop)) := by
  induction streams generalizing k with
  | nil => cases hk
  | cons s₀ streams ih =>
    cases k with
    | zero =>
      obtain rfl : s₀ = s := Option.some.inj hk
      rw [List.set_cons_zero, heldInterests_cons, heldInterests_cons, hheld]
      exact .refl _
    | succ k =>
      rw [List.set_cons_succ, heldInterests_cons, heldInterests_cons]
      exact ((ih hk).append_left _).trans List.perm_middle

end Stream

namespace Handler

variable {α : Type}

/-- The interests of the streams that are handed out and not dropped. -/
def openInterests (h : Handler α) : List Interest :=
  Stream.heldInterests h.streams

/-- The interests that a channel has taken, oldest first. -/
def accepted (c : Channel) (events : List Event) : List Interest :=
  events.filterMap fun
    | .connection (.accepted c' i) => if c' = c then some i else none
    | _ => none

/-! ### Registrations -/

theorem holds_build {settings : Settings} {metrics : Option Metrics} {h : Handler α}
    (hbuild : build settings metrics = .ok h) : h.tracker.Holds h.openInterests := by
  obtain ⟨htracker, hstreams, -⟩ := build_spec hbuild
  rw [openInterests, htracker, hstreams]
  exact Tracker.holds_empty

/-- A stream that stays held, or stays dropped, keeps its registration, or has none. -/
theorem holds_setStream {h : Handler α} {k : Nat} {s s' : Stream α}
    (hholds : h.tracker.Holds h.openInterests) (hk : h.streams[k]? = some s)
    (hsame : s.SameHold s') :
    (h.setStream k s').tracker.Holds (h.setStream k s').openInterests := by
  have hset : (h.setStream k s').openInterests = h.openInterests :=
    Stream.heldInterests_set hk hsame
  rw [hset]
  exact hholds

/-- **The registrations stay those of the open streams**, step by step. -/
theorem holds_step {h h' : Handler α} {events : List Event}
    (hholds : h.tracker.Holds h.openInterests) (hstep : Step h events h') :
    h'.tracker.Holds h'.openInterests := by
  cases hstep with
  | subscribe i hheld =>
    rw [Handler.subscribe]
    by_cases hdown : h.isShutDown = true
    · rw [if_pos hdown]
      exact hholds
    · rw [if_neg hdown]
      cases hbuffer : Breakdown.ofBuffer? h.streamBuffer with
      | some cause => exact (hholds.append i).remove
      | none =>
        refine (hholds.append i).perm ?_
        have hconcat := Stream.heldInterests_concat h.streams (rfl :
          ({ interest := i, capacity := h.streamBuffer, forwarder := { seen := 0 } } :
            Stream α).held = true)
        exact (List.perm_append_singleton _ _).symm.trans (.of_eq hconcat.symm)
  | dropStream k =>
    rw [Handler.dropStream]
    cases hk : h.streams[k]? with
    | none => exact hholds
    | some s =>
      by_cases hheld : s.held = true
      · simp only [if_pos hheld]
        exact (hholds.perm (Stream.perm_heldInterests_set_drop hk hheld)).remove
      · simp only [if_neg hheld]
        exact hholds
  | poll k =>
    rw [Handler.poll]
    cases hk : h.streams[k]? with
    | none => exact hholds
    | some s => exact holds_setStream hholds hk s.sameHold_poll
  | shutdown hheld =>
    rw [Handler.shutdown]
    split <;> exact hholds
  | finishShutdown hheld hfinish =>
    simp only [finishShutdown?, Option.ite_none_right_eq_some, Option.some.injEq] at hfinish
    obtain ⟨-, rfl⟩ := hfinish
    exact hholds
  | drop hheld => exact hholds
  | noticeLoop hnotice | noticeEvictor hnotice | noticeFollower hnotice =>
    obtain ⟨_, -, rfl⟩ := Option.map_eq_some_iff.mp hnotice
    exact hholds
  | answerLoop r hidle => exact hholds
  | answerEvictor outcome => exact hholds
  | noticeForwarder hnotice =>
    obtain ⟨s, hk, hnotice⟩ := Option.bind_eq_some_iff.mp hnotice
    obtain ⟨s', hs', rfl⟩ := Option.map_eq_some_iff.mp hnotice
    exact holds_setStream hholds hk (Stream.sameHold_notice? hs')
  | @pull k next hidle =>
    rw [Handler.pull]
    cases hk : h.streams[k]? with
    | none => exact hholds
    | some s => exact holds_setStream hholds hk (s.sameHold_pull next)

/-- **The registrations of a handler are the interests of its open streams**, at any time. -/
theorem Course.holds {settings : Settings} {metrics : Option Metrics} {events : List Event}
    {h : Handler α} (course : Course settings metrics events h) :
    h.tracker.Holds h.openInterests := by
  obtain ⟨h₀, hbuild, course⟩ := course
  induction course with
  | start => exact holds_build hbuild
  | step _ last ih => exact holds_step ih last

/-! ### Agreement -/

theorem getLast?_accepted {c : Channel} {i : Interest} {events : List Event}
    (hlast : (Connection.acceptances (events.filterMap Event.loop?)).getLast? = some (c, i)) :
    (accepted c events).getLast? = some i := by
  have haccepted : accepted c events =
      (Connection.acceptances (events.filterMap Event.loop?)).filterMap
        fun entry => if entry.1 = c then some entry.2 else none := by
    rw [Connection.acceptances, List.filterMap_filterMap, List.filterMap_filterMap, accepted]
    congr 1
    funext e
    cases e with
    | connection e => cases e <;> rfl
    | _ => rfl
  obtain ⟨entries, hentries⟩ := List.getLast?_eq_some_iff.mp hlast
  rw [haccepted, hentries, List.filterMap_append]
  simp

/-- Whenever the loop is idle with a channel and has nothing to do, the channel is the current one,
the last interest that it took is the union that the handler publishes, and this is the normalized
union of the interests of exactly the streams that are held. -/
theorem Course.agreement_of_idle {settings : Settings} {metrics : Option Metrics}
    {events : List Event} {h : Handler α} {l : Loop Interest} {c : Channel}
    {ended : Option SessionEnd} (course : Course settings metrics events h)
    (hloop : h.connection.loop = some l) (hwait : l.wait = .serving c)
    (hidle : h.noticeLoop? ended = none) :
    h.currentChannel = some c ∧ (accepted c events).getLast? = some h.currentInterest ∧
      h.currentInterest = Interest.unionAll h.openInterests := by
  obtain ⟨deeds, hcourse, hevents⟩ := course.connection
  obtain ⟨hcurrent, hlast⟩ :=
    hcourse.tracks.of_idle hloop hwait (Option.map_eq_none_iff.mp hidle)
  rw [hevents] at hlast
  exact ⟨hcurrent, getLast?_accepted hlast, course.holds.union_eq⟩

end Handler

end InterestMux
