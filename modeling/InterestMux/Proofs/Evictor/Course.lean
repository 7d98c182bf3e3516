import InterestMux.Handler.Evictor
import InterestMux.Proofs.Course
import InterestMux.Proofs.Ring.Receipts
import Mathlib.Tactic.ByContra

/-!
# Courses of the evictor

The evictor listens to the ring in which channels are announced. Channels are announced at any
time, also during a round, and a round may take as long as it likes and end in any way. When the
evictor has received an announcement it goes on receiving until there is nothing more, over the gaps
that it is told of, so it comes to the newest announcement however far it had fallen behind.

## Main definitions

* `Evictor.Situation`, `Evictor.Deed`, `Evictor.Step`, `Evictor.Course`
* `Evictor.Passage` : the ways of the evictor from one waiting point to another.

## Main results

* `Evictor.takeNewest_eq` : what is taken is the newest announcement, and the rest is counted.
* `Evictor.passage_of_notice?`, `Evictor.passage_answer` : what the evictor does is one of its ways.
* `Evictor.notice?_finished` : the evictor ends only if it is told to, or if nothing is left to
  announce.
-/

namespace InterestMux.Evictor

/-! ### The newest announcement -/

/-- **Receiving to the end leads to the newest announcement**, over any gap: the ring keeps the
newest, and so the evictor is never at the end just after a gap. -/
theorem foldl_skip_drain {r : Ring Channel} (hcapacity : 0 < r.capacity) (fuel : Nat)
    {cursor : Nat} (last : Channel) (skipped : Nat) (hcursor : cursor ≤ r.tail)
    (hfuel : r.tail - cursor ≤ fuel)
    (hlast : cursor = r.tail → r.announced.getLast? = some last) :
    ∃ newest, r.announced.getLast? = some newest ∧ (r.drain cursor fuel).2 = r.tail ∧
      (r.drain cursor fuel).1.foldl skip (last, skipped) =
        (newest, skipped + (r.tail - cursor)) := by
  induction fuel generalizing cursor skipped last with
  | zero =>
    obtain rfl : cursor = r.tail := by omega
    exact ⟨last, hlast rfl, rfl, by simp [Ring.drain]⟩
  | succ fuel ih =>
    rw [Ring.drain]
    cases hreceive : r.receive? cursor with
    | none =>
      obtain rfl : cursor = r.tail := Nat.le_antisymm hcursor (Ring.receive?_eq_none.mp hreceive)
      exact ⟨last, hlast rfl, rfl, by simp⟩
    | some result =>
      obtain ⟨receipt, cursor'⟩ := result
      have hreceives := Ring.receives_of_receive? hreceive
      obtain ⟨hcount, hlt, hle⟩ := hreceives.eq_add_count
      simp only [List.foldl_cons]
      cases hreceives with
      | @item value hvalue =>
        obtain ⟨newest, hnewest, hend, hfold⟩ := ih value (skipped + 1) hle
          (by omega) (Ring.getLast?_of_getElem? hvalue)
        refine ⟨newest, hnewest, hend, ?_⟩
        rw [skip, hfold]
        exact congrArg (Prod.mk newest) (by omega)
      | lagged hbehind =>
        obtain ⟨newest, hnewest, hend, hfold⟩ :=
          ih last (skipped + (r.tail - r.capacity - cursor)) hle (by omega)
            (fun hend => by omega)
        refine ⟨newest, hnewest, hend, ?_⟩
        rw [skip, hfold]
        exact congrArg (Prod.mk newest) (by omega)

/-- An evictor that took a channel has a round to hold if the channel has a source. -/
def hold (cursor : Nat) (newest : Channel) (skipped : Nat) : Result :=
  match newest.source with
  | none => ({ cursor }, [.taken newest skipped, .sourceless newest])
  | some source => ({ cursor, wait := .evicting source }, [.taken newest skipped, .began source])

/-- What is taken is the newest announcement, and those in between are counted. -/
theorem takeNewest_eq {r : Ring Channel} (hcapacity : 0 < r.capacity) {cursor : Nat} {c : Channel}
    (hreceived : r.announced[cursor]? = some c) :
    ∃ newest, r.announced.getLast? = some newest ∧
      takeNewest r c (cursor + 1) = hold r.tail newest (r.tail - (cursor + 1)) := by
  obtain ⟨hlt, -⟩ := List.getElem?_eq_some_iff.mp hreceived
  obtain ⟨newest, hnewest, hend, hfold⟩ :=
    foldl_skip_drain hcapacity (r.tail - (cursor + 1)) c 0 hlt
      (Nat.le_refl _) (Ring.getLast?_of_getElem? hreceived)
  refine ⟨newest, hnewest, ?_⟩
  simp only [takeNewest, hfold, hend, Nat.zero_add]
  rfl

/-! ### Courses -/

/-- The evictor, and the ring that it listens to. -/
structure Situation where
  evictor : Evictor
  channels : Ring Channel

/-- What the evictor is told, and what it does. -/
inductive Deed where
  /-- A channel is announced. -/
  | announced (c : Channel)
  /-- The evictor does something. -/
  | did (e : Event)

/-- A channel is announced, the evictor leaves its waiting point, or a round ends. Whether the
evictor is to stop, and whether channels can still be announced, may change at any time. -/
inductive Step : Situation → List Deed → Situation → Prop
  | announce (w : Situation) (c : Channel) :
    Step w [.announced c] { w with channels := w.channels.announce c }
  | notice {w : Situation} {stopped announcing : Bool} {result : Result}
      (h : w.evictor.notice? stopped w.channels announcing = some result) :
    Step w (result.2.map .did) { w with evictor := result.1 }
  | answer (w : Situation) (outcome : Except Failure Nat) :
    Step w ((w.evictor.answer outcome).2.map .did)
      { w with evictor := (w.evictor.answer outcome).1 }

/-- A course of an evictor that listens to a ring from its end on. -/
abbrev Course (channels : Ring Channel) : List Deed → Situation → Prop :=
  InterestMux.Course Step { evictor := { cursor := channels.tail }, channels }

/-- The ways of the evictor from one waiting point to another. -/
inductive Passage (w : Situation) : List Event → Evictor → Prop
  | stay : Passage w [] w.evictor
  | finish (hwait : w.evictor.wait = .listening) :
    Passage w [] { w.evictor with wait := .finished }
  /-- Announcements are lost. -/
  | lag (hwait : w.evictor.wait = .listening)
      (hbehind : w.evictor.cursor + w.channels.capacity < w.channels.tail) :
    Passage w [.lagged (w.channels.tail - w.channels.capacity - w.evictor.cursor)]
      { w.evictor with cursor := w.channels.tail - w.channels.capacity }
  /-- The newest channel has no source. -/
  | skip {newest : Channel} (hwait : w.evictor.wait = .listening)
      (hcursor : w.evictor.cursor < w.channels.tail)
      (hnewest : w.channels.announced.getLast? = some newest) (hsource : newest.source = none) :
    Passage w [.taken newest (w.channels.tail - (w.evictor.cursor + 1)), .sourceless newest]
      { cursor := w.channels.tail }
  | begin {newest : Channel} {source : Source} (hwait : w.evictor.wait = .listening)
      (hcursor : w.evictor.cursor < w.channels.tail)
      (hnewest : w.channels.announced.getLast? = some newest)
      (hsource : newest.source = some source) :
    Passage w [.taken newest (w.channels.tail - (w.evictor.cursor + 1)), .began source]
      { cursor := w.channels.tail, wait := .evicting source }
  | evicted {source : Source} (count : Nat) (hwait : w.evictor.wait = .evicting source) :
    Passage w [.evicted count source] { w.evictor with wait := .listening }
  | failed {source : Source} (reason : Failure) (hwait : w.evictor.wait = .evicting source) :
    Passage w [.failed reason source] { w.evictor with wait := .listening }

section Passage

variable {w : Situation}

theorem passage_of_notice? (hcapacity : 0 < w.channels.capacity) {stopped announcing : Bool}
    {result : Result} (h : w.evictor.notice? stopped w.channels announcing = some result) :
    Passage w result.2 result.1 := by
  cases hwait : w.evictor.wait with
  | evicting | finished => simp [notice?, hwait] at h
  | listening =>
    simp only [notice?, hwait] at h
    split at h
    · obtain rfl := Option.some.inj h
      exact .finish hwait
    cases hreceive : w.channels.receive? w.evictor.cursor with
    | none =>
      rw [hreceive] at h
      obtain ⟨-, hfinish⟩ := Option.ite_none_left_eq_some.mp h
      obtain rfl := Option.some.inj hfinish
      exact .finish hwait
    | some received =>
      obtain ⟨receipt, cursor'⟩ := received
      rw [hreceive] at h
      cases Ring.receives_of_receive? hreceive with
      | lagged hbehind =>
        obtain rfl := Option.some.inj h
        rw [← hwait]
        exact .lag hwait hbehind
      | @item c hvalue =>
        obtain ⟨hcursor, -⟩ := List.getElem?_eq_some_iff.mp hvalue
        obtain ⟨newest, hnewest, htake⟩ := takeNewest_eq hcapacity hvalue
        simp only [htake, Option.some.injEq] at h
        subst h
        rw [hold]
        cases hsource : newest.source with
        | none => exact .skip hwait hcursor hnewest hsource
        | some source => exact .begin hwait hcursor hnewest hsource

theorem passage_answer (w : Situation) (outcome : Except Failure Nat) :
    Passage w (w.evictor.answer outcome).2 (w.evictor.answer outcome).1 := by
  cases hwait : w.evictor.wait with
  | listening | finished =>
    simp only [answer, hwait]
    exact .stay
  | evicting source =>
    cases outcome with
    | ok count =>
      simp only [answer, hwait]
      exact .evicted count hwait
    | error reason =>
      simp only [answer, hwait]
      exact .failed reason hwait

end Passage

/-! ### The end of the evictor -/

section Finished

variable {e : Evictor} {channels : Ring Channel} {stopped announcing : Bool}

/-- The evictor ends if it is told to, or if nothing can be announced any more. -/
theorem notice?_finished {result : Result} (h : e.notice? stopped channels announcing = some result)
    (hover : result.1.wait = .finished) : stopped = true ∨ announcing = false := by
  cases hwait : e.wait with
  | evicting | finished => simp [notice?, hwait] at h
  | listening =>
    by_contra hgoing
    rw [not_or, Bool.not_eq_true, Bool.not_eq_false] at hgoing
    obtain ⟨rfl, rfl⟩ := hgoing
    simp only [notice?, hwait, Bool.false_eq_true, if_false, if_true] at h
    cases hreceive : channels.receive? e.cursor with
    | none => simp [hreceive] at h
    | some received =>
      obtain ⟨receipt, cursor⟩ := received
      cases receipt with
      | lagged lost =>
        simp only [hreceive, Option.some.injEq] at h
        subst h
        cases hover
      | item c =>
        simp only [hreceive, Option.some.injEq] at h
        subst h
        simp only [takeNewest] at hover
        split at hover <;> cases hover

theorem answer_finished {outcome : Except Failure Nat}
    (hover : (e.answer outcome).1.wait = .finished) : e.wait = .finished := by
  cases hwait : e.wait with
  | listening => simp [answer, hwait] at hover
  | evicting source => cases outcome <;> simp [answer, hwait] at hover
  | finished => rfl

theorem notice?_stopped {result : Result} (h : e.notice? true channels announcing = some result) :
    result = ({ e with wait := .finished }, []) := by
  cases hwait : e.wait with
  | evicting | finished => simp [notice?, hwait] at h
  | listening =>
    simp only [notice?, hwait, if_true, Option.some.injEq] at h
    exact h.symm

theorem began_notMem_answer (outcome : Except Failure Nat) (source : Source) :
    .began source ∉ (e.answer outcome).2 := by
  cases hwait : e.wait with
  | listening | finished => simp [answer, hwait]
  | evicting spared => cases outcome <;> simp [answer, hwait]

end Finished

end InterestMux.Evictor
