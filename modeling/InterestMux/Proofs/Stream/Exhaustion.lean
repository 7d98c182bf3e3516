import InterestMux.Proofs.Stream.Delivery

/-!
# Streams of an exhausted connection

The forwarder of a stream sees of the lifecycle only what was published last, and looks only before
it waits for a notification. Still it does not miss that the connection gave up. While it waits it
is woken by every publication, and it gives up following the lifecycle only when it has seen the
last publication that there will ever be. So once the connection has given up it takes no more
notifications, and it is never idle before it has sent the failure: either the buffer is full, or it
can go on, and it needs to do so three times at most.

## Main definitions

* `Stream.Alert` : what the forwarder has seen of the lifecycle.
* `Stream.Blames` : all failures that the stream hands on are those of the connection.
* `Stream.looksLeft` : how often the forwarder has to go on until the failure is sent.
* `Stream.IsPrompt` : the forwarder has not come to wait for a notification.

## Main results

* `Stream.Alert.step`, `Stream.Alert.of_later` : a forwarder stays alert.
* `Stream.Alert.reads_of_step` : nothing is taken any more once the connection has given up.
* `Stream.Alert.blocked_or_notice?` : until the failure is sent, the buffer is full or the forwarder
  can go on.
-/

namespace InterestMux.Stream

variable {α : Type}

/-- The forwarder has not missed that the connection gave up. -/
structure Alert (lifecycle : Watch ConnectionState) (publishing : Bool) (s : Stream α) : Prop where
  seen_le : s.forwarder.seen ≤ lifecycle.version
  /-- It waits with the latest state before its eyes only if the connection has not given up. -/
  going : s.forwarder.wait = .selecting → s.forwarder.watching = true →
    s.forwarder.seen = lifecycle.version → ∀ n, lifecycle.value ≠ .exhausted n
  /-- It follows the lifecycle as long as this can change, and if the connection gave up. -/
  unwatched : s.forwarder.watching = false →
    publishing = false ∧ ∀ n, lifecycle.value ≠ .exhausted n

/-- All failures that the stream hands on are those of a connection that gave up. -/
def Blames (gaveUp : UInt32 → Prop) (h : List (Transfer α)) (s : Stream α) : Prop :=
  ∀ reason, .error reason ∈ reads h ++ s.buffer ++ s.waiting →
    ∃ n, gaveUp n ∧ reason = .connectionExhausted n

/-- How often the forwarder has to go on until the failure of an exhausted connection is sent. -/
def looksLeft (s : Stream α) : Nat :=
  match s.forwarder.wait with
  | .finished => 0
  | .sending (.error _) => 1
  | .looking => 2
  | .selecting | .sending (.ok _) => 3

/-- The forwarder waits for room in the buffer, and there is none. -/
def IsBlocked (s : Stream α) : Prop :=
  (∃ d, s.forwarder.wait = .sending d) ∧ s.capacity ≤ s.buffer.length

/-- The forwarder neither waits for a notification nor has one to send. -/
def IsPrompt (s : Stream α) : Prop :=
  match s.forwarder.wait with
  | .looking | .sending (.error _) | .finished => True
  | .selecting | .sending (.ok _) => False

section Alert

variable {lifecycle lifecycle' : Watch ConnectionState} {publishing publishing' : Bool}
  {s s' : Stream α} {later : List (Transfer α)}

theorem alert_new (i : Interest) (room : Nat) : Alert lifecycle publishing
    ({ interest := i, capacity := room, forwarder := { seen := 0 } } : Stream α) where
  seen_le := Nat.zero_le _
  going := fun hwait => by cases hwait
  unwatched := fun hunwatched => by cases hunwatched

/-- What matters is the forwarder, and a forwarder that does not wait for a notification has only
to follow the lifecycle. -/
theorem Alert.forward (alert : Alert lifecycle publishing s) {wait : Forwarder.Wait α}
    {buffer : List (Delivery α)} {seen : Nat} (hseen : seen ≤ lifecycle.version)
    (hwait : wait ≠ .selecting) :
    Alert lifecycle publishing
      { s with buffer, forwarder := { s.forwarder with seen, wait } } where
  seen_le := hseen
  going := fun h => absurd h hwait
  unwatched := alert.unwatched

theorem Alert.notice (alert : Alert lifecycle publishing s)
    (hnotices : Notices lifecycle publishing s s') : Alert lifecycle publishing s' := by
  cases hnotices with
  | giveUp => exact alert.forward (Nat.le_refl _) (by simp)
  | look seen hwait hgoing hseen =>
    refine ⟨?_, fun _ hwatching _ => hgoing hwatching, alert.unwatched⟩
    subst hseen
    show (if s.forwarder.watching then lifecycle.version else s.forwarder.seen) ≤ _
    split
    · exact Nat.le_refl _
    · exact alert.seen_le
  | abandon => exact alert.forward alert.seen_le (by simp)
  | wake => exact alert.forward (Nat.le_refl _) (by simp)
  | unwatch hwait _ hsettled hwatching hseen =>
    have hlatest : lifecycle.version = s.forwarder.seen := by
      simpa [Watch.changedSince] using hseen
    refine ⟨alert.seen_le, fun h => ?_, fun _ => ⟨hsettled, ?_⟩⟩
    · cases h
    · exact alert.going hwait hwatching hlatest.symm
  | @deliver d => cases d <;> exact alert.forward alert.seen_le (by simp)

/-- **A forwarder stays alert**, whatever happens to its stream. -/
theorem Alert.step (alert : Alert lifecycle publishing s)
    (step : Step lifecycle publishing s later s') : Alert lifecycle publishing s' := by
  cases step with
  | rest => exact alert
  | notice hnotice => exact alert.notice (notices_of_notice? hnotice)
  | pull next hselecting =>
    have hwait := wait_of_isSelecting hselecting
    cases next <;> simp only [pull, hwait] <;> exact alert.forward alert.seen_le (by simp)
  | poll =>
    rw [poll]
    split <;> exact ⟨alert.seen_le, alert.going, alert.unwatched⟩
  | drop => exact ⟨alert.seen_le, alert.going, alert.unwatched⟩

/-- **A forwarder stays alert while the lifecycle goes on**: a publication raises the version, and
when nobody is left who publishes there are no more. -/
theorem Alert.of_later (alert : Alert lifecycle publishing s)
    (hlater : lifecycle' = lifecycle ∨ lifecycle.version < lifecycle'.version)
    (hleft : publishing = false → publishing' = false ∧ lifecycle' = lifecycle) :
    Alert lifecycle' publishing' s := by
  have hseen := alert.seen_le
  constructor
  case seen_le =>
    rcases hlater with rfl | hnewer
    · exact hseen
    · exact Nat.le_of_lt (Nat.lt_of_le_of_lt hseen hnewer)
  case going =>
    intro hwait hwatching hlatest
    rcases hlater with rfl | hnewer
    · exact alert.going hwait hwatching hlatest
    · -- The forwarder cannot have seen the newer publication yet.
      omega
  case unwatched =>
    intro hunwatched
    obtain ⟨hquiet, hgoing⟩ := alert.unwatched hunwatched
    obtain ⟨hquiet', rfl⟩ := hleft hquiet
    exact ⟨hquiet', hgoing⟩

end Alert

/-! ### After the connection gave up -/

section Exhausted

variable {lifecycle : Watch ConnectionState} {publishing : Bool} {s s' : Stream α}
  {later : List (Transfer α)} {n : UInt32}

/-- A forwarder still follows the lifecycle of a connection that gave up. -/
theorem Alert.watching (alert : Alert lifecycle publishing s)
    (hvalue : lifecycle.value = .exhausted n) : s.forwarder.watching = true := by
  cases hwatching : s.forwarder.watching with
  | true => rfl
  | false => exact absurd hvalue ((alert.unwatched hwatching).2 n)

/-- A forwarder that waits for a notification has something else to do first. -/
theorem Alert.not_idle (alert : Alert lifecycle publishing s)
    (hvalue : lifecycle.value = .exhausted n) (hwait : s.forwarder.wait = .selecting) :
    s.notice? lifecycle publishing ≠ none := by
  have hwatching := alert.watching hvalue
  have hchanged : lifecycle.changedSince s.forwarder.seen = true := by
    cases hchanged : lifecycle.changedSince s.forwarder.seen with
    | true => rfl
    | false =>
      have hlatest : lifecycle.version = s.forwarder.seen := by
        simpa [Watch.changedSince] using hchanged
      exact absurd hvalue (alert.going hwait hwatching hlatest.symm n)
  cases hheld : s.held <;> simp [notice?, hwait, hheld, hwatching, hchanged]

/-- **Nothing is taken any more once the connection has given up.** -/
theorem Alert.reads_of_step (alert : Alert lifecycle publishing s)
    (hvalue : lifecycle.value = .exhausted n) (step : Step lifecycle publishing s later s') :
    ∀ transfer ∈ later, ∃ d, transfer = .read d := by
  intro transfer htransfer
  cases step with
  | rest | notice | drop => cases htransfer
  | pull next hselecting hidle =>
    exact absurd hidle (alert.not_idle hvalue (wait_of_isSelecting hselecting))
  | poll =>
    cases hpoll : s.poll.1 with
    | ready d =>
      rw [hpoll] at htransfer
      exact ⟨d, List.mem_singleton.mp htransfer⟩
    | pending | ended =>
      rw [hpoll] at htransfer
      cases htransfer

/-- **The forwarder comes nearer to sending the failure** whenever it goes on. -/
theorem Alert.looksLeft_lt (alert : Alert lifecycle publishing s)
    (hvalue : lifecycle.value = .exhausted n)
    (hnotice : s.notice? lifecycle publishing = some s') : s'.looksLeft < s.looksLeft := by
  cases notices_of_notice? hnotice with
  | giveUp hwait => simp [looksLeft, hwait]
  | look _ _ hgoing => exact absurd hvalue (hgoing (alert.watching hvalue) n)
  | abandon hwait =>
    rcases hwait with hwait | ⟨d, hwait⟩
    · simp [looksLeft, hwait, Forwarder.finish]
    · cases d <;> simp [looksLeft, hwait, Forwarder.finish]
  | wake hwait | unwatch hwait => simp [looksLeft, hwait]
  | @deliver d hwait => cases d <;> simp [looksLeft, deliver, hwait]

/-- A forwarder that has nothing to do of its own accord is over, waits for the next notification,
or finds no room in the buffer. -/
theorem over_or_idle (hidle : s.notice? lifecycle publishing = none) :
    s.forwarder.isRunning = false ∨ s.isSelecting = true ∨ s.IsBlocked := by
  cases hwait : s.forwarder.wait with
  | looking => simp [notice?, hwait] at hidle
  | selecting => exact .inr (.inl (by simp [isSelecting, hwait]))
  | sending d =>
    cases hheld : s.held with
    | false => simp [notice?, hwait, hheld] at hidle
    | true => exact .inr (.inr ⟨⟨d, hwait⟩, by simpa [notice?, hwait, hheld] using hidle⟩)
  | finished => exact .inl (by simp [Forwarder.isRunning, hwait])

/-- **Until the failure is sent, the buffer is full or the forwarder can go on.** -/
theorem Alert.blocked_or_notice? (alert : Alert lifecycle publishing s)
    (hvalue : lifecycle.value = .exhausted n) (hrunning : s.forwarder.isRunning = true) :
    s.IsBlocked ∨ ∃ s', s.notice? lifecycle publishing = some s' ∧ s'.looksLeft < s.looksLeft := by
  cases hnotice : s.notice? lifecycle publishing with
  | some s' => exact .inr ⟨s', rfl, alert.looksLeft_lt hvalue hnotice⟩
  | none =>
    rcases over_or_idle hnotice with hover | hselecting | blocked
    · exact absurd hrunning (by simp [hover])
    · exact absurd hnotice (alert.not_idle hvalue (wait_of_isSelecting hselecting))
    · exact .inl blocked

theorem IsPrompt.isSelecting_eq_false (prompt : s.IsPrompt) : s.isSelecting = false := by
  cases hwait : s.forwarder.wait with
  | selecting => simp [IsPrompt, hwait] at prompt
  | _ => simp [isSelecting, hwait]

/-- **A stream that is opened when the connection has given up never takes a notification.** -/
theorem IsPrompt.step (prompt : s.IsPrompt) (alert : Alert lifecycle publishing s)
    (hvalue : lifecycle.value = .exhausted n) (step : Step lifecycle publishing s later s') :
    s'.IsPrompt := by
  cases step with
  | rest | drop => exact prompt
  | notice hnotice =>
    cases notices_of_notice? hnotice with
    | giveUp | abandon => trivial
    | look _ _ hgoing => exact absurd hvalue (hgoing (alert.watching hvalue) n)
    | wake hwait | unwatch hwait => simp [IsPrompt, hwait] at prompt
    | @deliver d hwait =>
      cases d with
      | ok => simp [IsPrompt, hwait] at prompt
      | error => trivial
  | pull next hselecting =>
    simp [IsPrompt, wait_of_isSelecting hselecting] at prompt
  | poll =>
    rw [poll]
    split <;> exact prompt

end Exhausted

/-! ### Failures -/

section Blames

variable {lifecycle : Watch ConnectionState} {publishing : Bool} {gaveUp gaveUp' : UInt32 → Prop}
  {h later : List (Transfer α)} {s s' : Stream α}

theorem Blames.mono (blames : Blames gaveUp h s) (hmore : ∀ n, gaveUp n → gaveUp' n) :
    Blames gaveUp' h s := by
  intro reason hreason
  obtain ⟨n, hn, hreason⟩ := blames reason hreason
  exact ⟨n, hmore n hn, hreason⟩

/-- **A stream hands on no failures but those of the connection.** -/
theorem Blames.step (blames : Blames gaveUp h s)
    (hgaveUp : ∀ n, lifecycle.value = .exhausted n → gaveUp n)
    (step : Step lifecycle publishing s later s') : Blames gaveUp (h ++ later) s' := by
  intro reason hreason
  -- All but the failure of an exhausted connection is there already.
  cases step with
  | rest => exact blames reason (by simpa using hreason)
  | notice hnotice =>
    rw [List.append_nil] at hreason
    cases notices_of_notice? hnotice with
    | @giveUp n _ _ hvalue =>
      rcases List.mem_append.mp hreason with hold | hnew
      · exact blames reason (List.mem_append_left _ hold)
      · exact ⟨n, hgaveUp n hvalue, by simpa [waiting] using hnew⟩
    | look | abandon | wake | unwatch =>
      refine blames reason (List.mem_append_left _ ?_)
      simpa [waiting, Forwarder.finish] using hreason
    | @deliver d hwait =>
      refine blames reason ?_
      cases d <;> simpa [waiting, deliver, hwait] using hreason
  | pull next hselecting =>
    have hwait := wait_of_isSelecting hselecting
    refine blames reason (List.mem_append_left _ ?_)
    cases next <;>
      simpa [pull, hwait, waiting, Forwarder.finish, reads_append, reads, Transfer.ofNext]
        using hreason
  | poll =>
    refine blames reason ?_
    cases hbuffer : s.buffer with
    | nil =>
      cases hrunning : s.forwarder.isRunning <;>
        simpa [poll, hbuffer, hrunning, Transfer.ofPoll, waiting] using hreason
    | cons d rest =>
      simpa [poll, hbuffer, Transfer.ofPoll, waiting, reads_append, reads] using hreason
  | drop =>
    refine blames reason ?_
    rw [List.append_nil] at hreason
    rcases List.mem_append.mp hreason with hread | hwaiting
    · have hread : .error reason ∈ reads h := by simpa [drop] using hread
      exact List.mem_append_left _ (List.mem_append_left _ hread)
    · exact List.mem_append_right _ hwaiting

end Blames

end InterestMux.Stream
