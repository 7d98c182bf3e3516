import InterestMux.Handler.Stream
import InterestMux.Proofs.Course
import Mathlib.Data.List.Forall2

/-!
# What a stream delivers

A stream takes notifications from the registry at one end and hands deliveries to its subscriber at
the other. What is between the two is in the buffer, or is the one delivery that the forwarder
waits to put there. So as long as the stream is held, what was read, what is buffered and what
waits together are the notifications without their sources, in order, and the failure after them
if the connection gave up.

## Main definitions

* `Stream.Transfer` : what goes into a stream and out of it.
* `Stream.Copies` : a delivery is the very change that a notification tells of.
* `Stream.Notices` : the ways of the forwarder from one waiting point to another.
* `Stream.Step` : what can happen to a stream.
* `Stream.Faithful` : a stream has handed on what it took.

## Main results

* `Stream.forall₂_copies` : what becomes of notifications are their changes, one by one.
* `Stream.notices_of_notice?` : what the forwarder does of its own accord is one of its ways.
* `Stream.Faithful.step` : whatever happens, a stream stays faithful.
* `Stream.Faithful.of_ended` : a stream that ends without a failure has handed on everything.
-/

namespace InterestMux.Stream

variable {α : Type}

/-! ### Transfers -/

/-- What goes into a stream and out of it. -/
inductive Transfer (α : Type) where
  /-- The forwarder takes a notification of the registry. -/
  | pulled (n : Notification α)
  /-- The forwarder learns that there are no more. -/
  | dried
  /-- The subscriber reads a delivery. -/
  | read (d : Delivery α)

/-- What the forwarder took, oldest first. -/
def pulls (h : List (Transfer α)) : List (Notification α) :=
  h.filterMap fun
    | .pulled n => some n
    | _ => none

/-- What the subscriber read, oldest first. -/
def reads (h : List (Transfer α)) : List (Delivery α) :=
  h.filterMap fun
    | .read d => some d
    | _ => none

/-- What becomes of a notification: its change, without the source. -/
def copy (n : Notification α) : Delivery α :=
  .ok n.untag

/-- The delivery is the very change that the notification tells of, with its kind and its data. -/
inductive Copies : Notification α → Delivery α → Prop
  | plain (c : Change α) : Copies (.plain c) (.ok c)
  | tagged (c : Change α) (source : Source) : Copies (.tagged c source) (.ok c)

theorem copies_copy : (n : Notification α) → Copies n (copy n)
  | .plain c => .plain c
  | .tagged c source => .tagged c source

/-- Each of the deliveries is the change of the notification in its place. -/
theorem forall₂_copies (ns : List (Notification α)) : List.Forall₂ Copies ns (ns.map copy) :=
  List.forall₂_map_right_iff.mpr (List.forall₂_same.mpr fun n _ => copies_copy n)

/-- The delivery that the forwarder waits to put into the buffer. -/
def waiting (s : Stream α) : List (Delivery α) :=
  match s.forwarder.wait with
  | .sending d => [d]
  | _ => []

/-- What goes in with the next notification of the registry, or with their end. -/
def Transfer.ofNext : Option (Notification α) → Transfer α
  | some n => .pulled n
  | none => .dried

/-- What goes out with what a subscriber gets. -/
def Transfer.ofPoll : Poll α → List (Transfer α)
  | .ready d => [.read d]
  | .pending | .ended => []

theorem pulls_append (h later : List (Transfer α)) : pulls (h ++ later) = pulls h ++ pulls later :=
  List.filterMap_append

theorem reads_append (h later : List (Transfer α)) : reads (h ++ later) = reads h ++ reads later :=
  List.filterMap_append

/-! ### What happens to a stream -/

/-- The ways of the forwarder from one waiting point to another. -/
inductive Notices (lifecycle : Watch ConnectionState) (publishing : Bool) (s : Stream α) :
    Stream α → Prop
  /-- The connection gave up. -/
  | giveUp {n : UInt32} (hwait : s.forwarder.wait = .looking)
      (hwatching : s.forwarder.watching = true) (hvalue : lifecycle.value = .exhausted n) :
    Notices lifecycle publishing s { s with
      forwarder := { s.forwarder with
        seen := lifecycle.version, wait := .sending (.error (.connectionExhausted n)) } }
  | look (seen : Nat) (hwait : s.forwarder.wait = .looking)
      (hgoing : s.forwarder.watching = true → ∀ n, lifecycle.value ≠ .exhausted n)
      (hseen : seen = if s.forwarder.watching then lifecycle.version else s.forwarder.seen) :
    Notices lifecycle publishing s
      { s with forwarder := { s.forwarder with seen, wait := .selecting } }
  /-- The subscriber is gone. -/
  | abandon (hwait : s.forwarder.wait = .selecting ∨ ∃ d, s.forwarder.wait = .sending d)
      (hdropped : s.held = false) :
    Notices lifecycle publishing s { s with forwarder := s.forwarder.finish }
  | wake (hwait : s.forwarder.wait = .selecting) (hheld : s.held = true)
      (hchanged : lifecycle.changedSince s.forwarder.seen = true) :
    Notices lifecycle publishing s
      { s with forwarder := { s.forwarder with seen := lifecycle.version, wait := .looking } }
  /-- The lifecycle cannot change any more. -/
  | unwatch (hwait : s.forwarder.wait = .selecting) (hheld : s.held = true)
      (hsettled : publishing = false) (hwatching : s.forwarder.watching = true)
      (hseen : lifecycle.changedSince s.forwarder.seen = false) :
    Notices lifecycle publishing s
      { s with forwarder := { s.forwarder with watching := false, wait := .looking } }
  | deliver {d : Delivery α} (hwait : s.forwarder.wait = .sending d) (hheld : s.held = true)
      (hroom : s.buffer.length < s.capacity) : Notices lifecycle publishing s (s.deliver d)

theorem notices_of_notice? {s s' : Stream α} {lifecycle : Watch ConnectionState}
    {publishing : Bool} (h : s.notice? lifecycle publishing = some s') :
    Notices lifecycle publishing s s' := by
  cases hwait : s.forwarder.wait with
  | looking =>
    simp only [notice?, hwait, Option.some.injEq] at h
    subst h
    rw [Forwarder.look]
    by_cases hwatching : s.forwarder.watching = true
    · rw [if_pos hwatching]
      cases hvalue : lifecycle.value with
      | exhausted n => exact .giveUp hwait hwatching hvalue
      | _ =>
        have hgoing (n : UInt32) : lifecycle.value ≠ .exhausted n := by simp [hvalue]
        exact .look lifecycle.version hwait (fun _ => hgoing) (by rw [if_pos hwatching])
    · rw [if_neg hwatching]
      exact .look s.forwarder.seen hwait (absurd · hwatching) (by rw [if_neg hwatching])
  | selecting =>
    simp only [notice?, hwait] at h
    by_cases hheld : s.held = true
    · rw [if_neg (by simp [hheld])] at h
      split at h
      · rename_i hchanged
        obtain rfl := Option.some.inj h
        exact .wake hwait hheld (Bool.and_eq_true_iff.mp hchanged).2
      · rename_i hunchanged
        obtain ⟨hsettled, hunwatched⟩ := Option.ite_none_right_eq_some.mp h
        obtain rfl := Option.some.inj hunwatched
        obtain ⟨hwatching, hleft⟩ := Bool.and_eq_true_iff.mp hsettled
        exact .unwatch hwait hheld (by simpa using hleft) hwatching
          (by simpa [hwatching] using hunchanged)
    · rw [if_pos (by simp [hheld])] at h
      obtain rfl := Option.some.inj h
      exact .abandon (.inl hwait) (Bool.not_eq_true _ ▸ hheld)
  | sending d =>
    simp only [notice?, hwait] at h
    by_cases hheld : s.held = true
    · rw [if_neg (by simp [hheld])] at h
      obtain ⟨hroom, hdelivered⟩ := Option.ite_none_right_eq_some.mp h
      obtain rfl := Option.some.inj hdelivered
      exact .deliver hwait hheld hroom
    · rw [if_pos (by simp [hheld])] at h
      obtain rfl := Option.some.inj h
      exact .abandon (.inr ⟨d, hwait⟩) (Bool.not_eq_true _ ▸ hheld)
  | finished => simp [notice?, hwait] at h

/-- What can happen to a stream, with what goes in and out, while the forwarder sees the lifecycle
and whether it may still change. -/
inductive Step (lifecycle : Watch ConnectionState) (publishing : Bool) :
    Stream α → List (Transfer α) → Stream α → Prop
  | rest (s : Stream α) : Step lifecycle publishing s [] s
  | notice {s s' : Stream α} (h : s.notice? lifecycle publishing = some s') :
    Step lifecycle publishing s [] s'
  | pull {s : Stream α} (next : Option (Notification α)) (hselecting : s.isSelecting = true)
      (hidle : s.notice? lifecycle publishing = none) :
    Step lifecycle publishing s [.ofNext next] (s.pull next)
  | poll (s : Stream α) : Step lifecycle publishing s (Transfer.ofPoll s.poll.1) s.poll.2
  | drop (s : Stream α) : Step lifecycle publishing s [] s.drop

theorem wait_of_isSelecting {s : Stream α} (h : s.isSelecting = true) :
    s.forwarder.wait = .selecting := by
  cases hwait : s.forwarder.wait <;> simp [isSelecting, hwait] at h ⊢

theorem wait_of_not_running {s : Stream α} (hover : s.forwarder.isRunning = false) :
    s.forwarder.wait = .finished := by
  cases hwait : s.forwarder.wait <;> simp [Forwarder.isRunning, hwait] at hover ⊢

theorem held_of_idle {s : Stream α} {lifecycle : Watch ConnectionState} {publishing : Bool}
    (hwait : s.forwarder.wait = .selecting) (hidle : s.notice? lifecycle publishing = none) :
    s.held = true := by
  cases hheld : s.held with
  | true => rfl
  | false => simp [notice?, hwait, hheld] at hidle

/-! ### Faithful streams -/

/-- What follows the notifications: nothing, or the failure if the connection gave up. A forwarder
that is over has come to the end of the notifications, or left a failure. -/
def Concludes (gaveUp : UInt32 → Prop) (h : List (Transfer α)) (s : Stream α)
    (failure : List (Delivery α)) : Prop :=
  match s.forwarder.wait with
  | .looking | .selecting | .sending (.ok _) => failure = []
  | .sending (.error reason) =>
    ∃ n, gaveUp n ∧ reason = .connectionExhausted n ∧ failure = [.error reason]
  | .finished => (failure = [] ∧ .dried ∈ h) ∨
      ∃ n, gaveUp n ∧ failure = [.error (.connectionExhausted n)]

/-- A stream with room for so many deliveries has handed on what it took. -/
structure Faithful (gaveUp : UInt32 → Prop) (room : Nat) (h : List (Transfer α)) (s : Stream α) :
    Prop where
  capacity_eq : s.capacity = room
  length_buffer_le : s.buffer.length ≤ room
  length_pulls_le : (pulls h).length ≤ (reads h).length + room + 1
  /-- What was read, what is buffered and what waits is what was taken, and a failure if any. -/
  copied : s.held = true → ∃ failure, Concludes gaveUp h s failure ∧
    reads h ++ s.buffer ++ s.waiting = (pulls h).map copy ++ failure

section Faithful

variable {gaveUp gaveUp' : UInt32 → Prop} {room : Nat} {h later : List (Transfer α)}
  {s s' : Stream α}

theorem Concludes.eq_nil_or {failure : List (Delivery α)} (h : Concludes gaveUp h s failure) :
    failure = [] ∨ ∃ n, gaveUp n ∧ failure = [.error (.connectionExhausted n)] := by
  unfold Concludes at h
  split at h
  · exact .inl h
  · exact .inl h
  · exact .inl h
  · obtain ⟨n, hn, rfl, hfailure⟩ := h
    exact .inr ⟨n, hn, hfailure⟩
  · exact h.imp_left And.left

theorem faithful_new (i : Interest) (seen : Nat) : Faithful gaveUp room []
    ({ interest := i, capacity := room, forwarder := { seen } } : Stream α) where
  capacity_eq := rfl
  length_buffer_le := Nat.zero_le _
  length_pulls_le := Nat.zero_le _
  copied := fun _ => ⟨[], rfl, rfl⟩

theorem Faithful.mono (faithful : Faithful gaveUp room h s) (hmore : ∀ n, gaveUp n → gaveUp' n) :
    Faithful gaveUp' room h s := by
  refine ⟨faithful.capacity_eq, faithful.length_buffer_le, faithful.length_pulls_le,
    fun hheld => ?_⟩
  obtain ⟨failure, hconcludes, hcopied⟩ := faithful.copied hheld
  refine ⟨failure, ?_, hcopied⟩
  unfold Concludes at hconcludes ⊢
  cases hwait : s.forwarder.wait with
  | looking | selecting => simpa [hwait] using hconcludes
  | sending d =>
    cases d with
    | ok => simpa [hwait] using hconcludes
    | error reason =>
      simp only [hwait] at hconcludes ⊢
      exact hconcludes.imp fun n hn => ⟨hmore n hn.1, hn.2⟩
  | finished =>
    simp only [hwait] at hconcludes ⊢
    exact hconcludes.imp_right fun hn => hn.imp fun n hn => ⟨hmore n hn.1, hn.2⟩

/-- While the forwarder looks around, everything that it took is read or buffered. -/
theorem Faithful.copied_of_wait (faithful : Faithful gaveUp room h s) (hheld : s.held = true)
    (hwait : s.forwarder.wait = .looking ∨ s.forwarder.wait = .selecting) :
    reads h ++ s.buffer = (pulls h).map copy := by
  obtain ⟨failure, hconcludes, hcopied⟩ := faithful.copied hheld
  rcases hwait with hwait | hwait
  all_goals
    simp only [Concludes, hwait] at hconcludes
    simpa [waiting, hwait, hconcludes] using hcopied

theorem Faithful.notice {lifecycle : Watch ConnectionState} {publishing : Bool}
    (faithful : Faithful gaveUp room h s) (hgaveUp : ∀ n, lifecycle.value = .exhausted n → gaveUp n)
    (hnotices : Notices lifecycle publishing s s') : Faithful gaveUp room h s' := by
  have hcapacity := faithful.capacity_eq
  have hroom := faithful.length_buffer_le
  have hahead := faithful.length_pulls_le
  cases hnotices with
  | @giveUp n hwait hwatching hvalue =>
    refine ⟨hcapacity, hroom, hahead, fun hheld => ?_⟩
    have hall := faithful.copied_of_wait hheld (.inl hwait)
    exact ⟨[.error (.connectionExhausted n)], ⟨n, hgaveUp n hvalue, rfl, rfl⟩, by rw [← hall]; rfl⟩
  | look seen hwait =>
    refine ⟨hcapacity, hroom, hahead, fun hheld => ?_⟩
    have hall := faithful.copied_of_wait hheld (.inl hwait)
    exact ⟨[], rfl, by rw [← hall]; rfl⟩
  | abandon hwait hdropped =>
    exact ⟨hcapacity, hroom, hahead,
      fun hheld => absurd (hdropped.symm.trans hheld) Bool.false_ne_true⟩
  | wake hwait hheld | unwatch hwait hheld =>
    refine ⟨hcapacity, hroom, hahead, fun _ => ?_⟩
    have hall := faithful.copied_of_wait hheld (.inr hwait)
    exact ⟨[], rfl, by rw [← hall]; rfl⟩
  | @deliver d hwait hheld hfree =>
    obtain ⟨failure, hconcludes, hall⟩ := faithful.copied hheld
    refine ⟨hcapacity, ?_, hahead, fun _ => ⟨failure, ?_, ?_⟩⟩
    · show (s.buffer ++ [d]).length ≤ room
      rw [List.length_append, ← hcapacity]
      exact hfree
    · cases d with
      | ok c => simpa [Concludes, deliver, hwait] using hconcludes
      | error reason =>
        simp only [Concludes, hwait] at hconcludes
        obtain ⟨n, hn, rfl, hfailure⟩ := hconcludes
        exact .inr ⟨n, hn, hfailure⟩
    · rw [← hall]
      cases d <;> simp [waiting, deliver, hwait]

theorem Faithful.take (faithful : Faithful gaveUp room h s) (hheld : s.held = true)
    (hwait : s.forwarder.wait = .selecting) (n : Notification α) :
    Faithful gaveUp room (h ++ [.pulled n])
      { s with forwarder := { s.forwarder with wait := .sending (.ok n.untag) } } := by
  have hcapacity := faithful.capacity_eq
  have hroom := faithful.length_buffer_le
  have hall := faithful.copied_of_wait hheld (.inr hwait)
  have hpulls : pulls (h ++ [.pulled n]) = pulls h ++ [n] := pulls_append h [.pulled n]
  have hreads : reads (h ++ [.pulled n]) = reads h := by
    rw [reads_append]
    exact List.append_nil _
  refine ⟨hcapacity, hroom, ?_, fun _ => ⟨[], rfl, ?_⟩⟩
  · -- All that was taken before is read or in the buffer.
    have hlength := congrArg List.length hall
    rw [List.length_append, List.length_map] at hlength
    rw [hpulls, hreads, List.length_append, List.length_singleton, ← hlength]
    exact Nat.add_le_add_right (Nat.add_le_add_left hroom _) 1
  · rw [hpulls, hreads, List.map_append, ← hall, List.append_nil]
    rfl

theorem Faithful.dry (faithful : Faithful gaveUp room h s) (hheld : s.held = true)
    (hwait : s.forwarder.wait = .selecting) :
    Faithful gaveUp room (h ++ [.dried]) { s with forwarder := s.forwarder.finish } := by
  have hall := faithful.copied_of_wait hheld (.inr hwait)
  have hpulls : pulls (h ++ [.dried]) = pulls h := by
    rw [pulls_append]
    exact List.append_nil _
  have hreads : reads (h ++ [.dried]) = reads h := by
    rw [reads_append]
    exact List.append_nil _
  refine ⟨faithful.capacity_eq, faithful.length_buffer_le, ?_,
    fun _ => ⟨[], .inl ⟨rfl, by simp⟩, ?_⟩⟩
  · rw [hpulls, hreads]
    exact faithful.length_pulls_le
  · rw [hpulls, hreads, ← hall]
    rfl

theorem Faithful.read (faithful : Faithful gaveUp room h s) {d : Delivery α}
    {rest : List (Delivery α)} (hbuffer : s.buffer = d :: rest) :
    Faithful gaveUp room (h ++ [.read d]) { s with buffer := rest } := by
  have hcapacity := faithful.capacity_eq
  have hroom := faithful.length_buffer_le
  have hahead := faithful.length_pulls_le
  have hpulls : pulls (h ++ [.read d]) = pulls h := by
    rw [pulls_append]
    exact List.append_nil _
  have hreads : reads (h ++ [.read d]) = reads h ++ [d] := reads_append h [.read d]
  refine ⟨hcapacity, ?_, ?_, fun hheld => ?_⟩
  · rw [hbuffer, List.length_cons] at hroom
    exact Nat.le_of_succ_le hroom
  · rw [hpulls, hreads, List.length_append, List.length_singleton]
    omega
  · obtain ⟨failure, hconcludes, hall⟩ := faithful.copied hheld
    refine ⟨failure, ?_, ?_⟩
    · unfold Concludes at hconcludes ⊢
      cases hwait : s.forwarder.wait with
      | finished =>
        simp only [hwait] at hconcludes ⊢
        exact hconcludes.imp_left fun hdry => ⟨hdry.1, List.mem_append_left _ hdry.2⟩
      | looking | selecting | sending => simpa [hwait] using hconcludes
    · rw [hpulls, hreads, ← hall, hbuffer, List.append_assoc (reads h)]
      rfl

/-- **Whatever happens, a stream stays faithful**, if the connection is known to have given up when
the lifecycle says so. -/
theorem Faithful.step {lifecycle : Watch ConnectionState} {publishing : Bool}
    (faithful : Faithful gaveUp room h s) (hgaveUp : ∀ n, lifecycle.value = .exhausted n → gaveUp n)
    (step : Step lifecycle publishing s later s') : Faithful gaveUp room (h ++ later) s' := by
  cases step with
  | rest =>
    rw [List.append_nil]
    exact faithful
  | notice hnotice =>
    rw [List.append_nil]
    exact faithful.notice hgaveUp (notices_of_notice? hnotice)
  | pull next hselecting hidle =>
    have hwait := wait_of_isSelecting hselecting
    have hheld := held_of_idle hwait hidle
    cases next with
    | none => simpa [pull, hwait, Transfer.ofNext] using faithful.dry hheld hwait
    | some n => simpa [pull, hwait, Transfer.ofNext] using faithful.take hheld hwait n
  | poll =>
    cases hbuffer : s.buffer with
    | cons d rest => simpa [poll, hbuffer, Transfer.ofPoll] using faithful.read hbuffer
    | nil =>
      have hnone : Transfer.ofPoll s.poll.1 = [] := by
        rw [poll, hbuffer]
        cases hrunning : s.forwarder.isRunning <;> rfl
      rw [hnone, List.append_nil, poll, hbuffer]
      exact faithful
  | drop =>
    rw [List.append_nil]
    exact ⟨faithful.capacity_eq, Nat.zero_le _, faithful.length_pulls_le,
      fun hheld => by cases hheld⟩

theorem of_poll_ended (hended : s.poll.1 = .ended) :
    s.buffer = [] ∧ s.forwarder.isRunning = false := by
  cases hbuffer : s.buffer with
  | cons d rest => simp [poll, hbuffer] at hended
  | nil =>
    cases hrunning : s.forwarder.isRunning with
    | true => simp [poll, hbuffer, hrunning] at hended
    | false => exact ⟨rfl, rfl⟩

/-- **A forwarder that is over has come to the end of the notifications, or has sent the failure.**
What is not read yet is in the buffer. -/
theorem Faithful.of_over (faithful : Faithful gaveUp room h s) (hheld : s.held = true)
    (hover : s.forwarder.isRunning = false) :
    (.dried ∈ h ∧ reads h ++ s.buffer = (pulls h).map copy) ∨
      ∃ n, gaveUp n ∧
        reads h ++ s.buffer = (pulls h).map copy ++ [.error (.connectionExhausted n)] := by
  have hfinished := wait_of_not_running hover
  obtain ⟨failure, hconcludes, hcopied⟩ := faithful.copied hheld
  rw [waiting, hfinished, List.append_nil] at hcopied
  simp only [Concludes, hfinished] at hconcludes
  rcases hconcludes with ⟨rfl, hdried⟩ | ⟨n, hn, rfl⟩
  · exact .inl ⟨hdried, hcopied.trans (List.append_nil _)⟩
  · exact .inr ⟨n, hn, hcopied⟩

/-- **A stream that ends without a failure has handed on everything**, up to the end of the
notifications. -/
theorem Faithful.of_ended (faithful : Faithful gaveUp room h s) (hheld : s.held = true)
    (hgoing : ∀ n, ¬ gaveUp n) (hended : s.poll.1 = .ended) :
    .dried ∈ h ∧ reads h = (pulls h).map copy := by
  obtain ⟨hbuffer, hover⟩ := of_poll_ended hended
  rcases faithful.of_over hheld hover with ⟨hdried, hall⟩ | ⟨n, hn, -⟩
  · exact ⟨hdried, by simpa [hbuffer] using hall⟩
  · exact absurd hn (hgoing n)

end Faithful

end InterestMux.Stream
