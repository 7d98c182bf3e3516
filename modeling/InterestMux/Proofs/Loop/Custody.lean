import InterestMux.Proofs.Connection.Course
import Mathlib.Data.List.Induction

/-!
# Channels in the custody of the loop

The loop may have one channel at a time. It requests a channel when it has released all others,
applies one operand after another to it, and begins to release it once, giving up the operand that
is under way if there is one. So a history tells which channel the loop has, and in what state:
each thing that the loop does with channels moves the custody on, or leaves it as it is.

## Main definitions

* `Loop.obtained`, `Loop.givenUp`, `Loop.released`, `Loop.underWay?` : what a history tells about
  channels.
* `Loop.Orderly` : what the loop may do with channels after what it did before.
* `Loop.Custody` : the channel that the loop has after an orderly history.

## Main results

* `Loop.Keeps.passage` : a passage keeps the custody.
* `Loop.Course.keeps` : every loop has the channel that its history tells.
* `Loop.length_obtained_le` : in an orderly history no more than one channel is not released.
* `Loop.length_released_le` : without another channel there is one at most to release.
-/

namespace InterestMux.Loop

variable {T : Type}

/-! ### Histories -/

/-- The channels that the loop got, oldest first. -/
def obtained (events : List (Event T)) : List Channel :=
  events.filterMap fun
    | .obtained c => some c
    | _ => none

/-- The channels that the loop began to release, oldest first. -/
def givenUp (events : List (Event T)) : List Channel :=
  events.filterMap fun
    | .releasing c => some c
    | _ => none

/-- The channels whose release is complete, oldest first. -/
def released (events : List (Event T)) : List Channel :=
  events.filterMap fun
    | .released c => some c
    | _ => none

/-- The operand that is being applied, with its channel: the loop began to apply it, and since then
neither has the channel taken it nor has the loop begun to release a channel. -/
def underWay? (events : List (Event T)) : Option (Channel × T) :=
  events.foldl (fun call e =>
    match e with
    | .bound c x _ => some (c, x)
    | .accepted _ _ | .releasing _ => none
    | _ => call) none

/-- What the loop may do with channels after what it did before. It requests and gets a channel
only when all earlier ones are released. It begins to apply an operand to the one channel that it
has not begun to release, when none is under way. It begins to release that channel once, and no
other. -/
def Orderly (before : List (Event T)) : Event T → Prop
  | .requested | .obtained _ => obtained before = released before
  | .bound c _ _ => obtained before = givenUp before ++ [c] ∧ underWay? before = none
  | .accepted c x => underWay? before = some (c, x)
  | .releasing c => obtained before = givenUp before ++ [c]
  | .released c => givenUp before = released before ++ [c]
  | _ => True

/-- **In an orderly history no more than one channel is not released**, and the channels are given
up and released in the order in which the loop got them. -/
theorem length_obtained_le {h : List (Event T)} (orderly : Throughout Orderly h) :
    released h <+: givenUp h ∧ givenUp h <+: obtained h ∧
      (obtained h).length ≤ (released h).length + 1 := by
  induction h using List.reverseRecOn with
  | nil => exact ⟨List.prefix_refl _, List.prefix_refl _, Nat.zero_le _⟩
  | append_singleton h e ih =>
    obtain ⟨hbefore, he⟩ := throughout_concat.mp orderly
    obtain ⟨hreleased, hgivenUp, hlength⟩ := ih hbefore
    cases e with
    | obtained c =>
      have hall : obtained h = released h := he
      have hmore : obtained h <+: obtained (h ++ [.obtained c]) := by simp [obtained]
      refine ⟨by simpa [released, givenUp] using hreleased, ?_, ?_⟩
      · exact .trans (by simpa [givenUp] using hgivenUp) hmore
      · have hcount : (obtained (h ++ [.obtained c])).length = (obtained h).length + 1 := by
          simp [obtained]
        rw [hcount, hall]
        simp [released]
    | releasing c =>
      have hone : obtained h = givenUp h ++ [c] := he
      have hall : givenUp (h ++ [.releasing c]) = obtained h := by simp [hone, givenUp]
      have hsame : obtained (h ++ [.releasing c]) = obtained h := by simp [obtained]
      rw [hall, hsame]
      exact ⟨by simpa [released] using hreleased.trans hgivenUp, List.prefix_refl _,
        by simpa [released] using hlength⟩
    | released c =>
      have hone : givenUp h = released h ++ [c] := he
      have hall : released (h ++ [.released c]) = givenUp h := by simp [hone, released]
      have hsame : givenUp (h ++ [.released c]) = givenUp h := by simp [givenUp]
      rw [hall, hsame]
      refine ⟨List.prefix_refl _, by simpa [obtained] using hgivenUp, ?_⟩
      have hle := hreleased.length_le
      rw [show obtained (h ++ [.released c]) = obtained h by simp [obtained]]
      omega
    | _ =>
      exact ⟨by simpa [released, givenUp] using hreleased,
        by simpa [givenUp, obtained] using hgivenUp, by simpa [obtained, released] using hlength⟩

/-- As long as the loop gets no other channel, there is one at most for it to release. -/
theorem length_released_le {h later : List (Event T)} (orderly : Throughout Orderly (h ++ later))
    (hnone : obtained later = []) : (givenUp later).length ≤ 1 ∧ (released later).length ≤ 1 := by
  obtain ⟨hreleased, -, hone⟩ := length_obtained_le (throughout_append.mp orderly).1
  obtain ⟨hreleased', hgivenUp', -⟩ := length_obtained_le orderly
  have hsame : (obtained (h ++ later)).length = (obtained h).length := by
    rw [obtained, List.filterMap_append, ← obtained, ← obtained, hnone, List.append_nil]
  have hgivenUp : (givenUp (h ++ later)).length = (givenUp h).length + (givenUp later).length := by
    simp only [givenUp, List.filterMap_append, List.length_append]
  have hsplit : (released (h ++ later)).length = (released h).length + (released later).length := by
    simp only [released, List.filterMap_append, List.length_append]
  have := hreleased.length_le
  have := hreleased'.length_le
  have := hgivenUp'.length_le
  omega

/-! ### Custody -/

/-- The channel that the loop is releasing. -/
def leaving? (l : Loop T) : Option Channel :=
  match l.wait with
  | .releasing c _ => some c
  | _ => none

/-- The operand that the loop waits for a channel to take. -/
def call? (l : Loop T) : Option (Channel × T) :=
  match l.wait with
  | .replaying c x | .applying c x => some (c, x)
  | _ => none

/-- The history is orderly, and leaves the loop with the channel that it holds, or with the one
that it is releasing, and with an operand under way or none. -/
structure Custody (h : List (Event T)) (held leaving : Option Channel)
    (call : Option (Channel × T)) : Prop where
  orderly : Throughout Orderly h
  /-- The loop began to release all channels but the one that it holds. -/
  held_eq : obtained h = givenUp h ++ held.toList
  /-- It has released all of these but the one that it is releasing. -/
  leaving_eq : givenUp h = released h ++ leaving.toList
  call_eq : underWay? h = call

section Custody

variable {h : List (Event T)} {held leaving : Option Channel} {call : Option (Channel × T)}
  {c : Channel}

theorem custody_nil : Custody ([] : List (Event T)) none none none :=
  ⟨throughout_nil _, rfl, rfl, rfl⟩

/-- What has nothing to do with the custody of channels. -/
def Event.isAside : Event T → Bool
  | .requested | .obtained _ | .bound _ _ _ | .accepted _ _ | .releasing _ | .released _ => false
  | _ => true

theorem Custody.aside (custody : Custody h held leaving call) {e : Event T}
    (he : e.isAside = true) : Custody (h ++ [e]) held leaving call := by
  obtain ⟨orderly, hheld, hleaving, hcall⟩ := custody
  cases e with
  | requested | obtained | bound | accepted | releasing | released => cases he
  | _ =>
    exact ⟨throughout_concat.mpr ⟨orderly, trivial⟩,
      by simpa [obtained, givenUp] using hheld, by simpa [givenUp, released] using hleaving,
      by simpa [underWay?] using hcall⟩

theorem Custody.asides (custody : Custody h held leaving call) {later : List (Event T)}
    (hlater : ∀ e ∈ later, e.isAside = true) : Custody (h ++ later) held leaving call := by
  induction later generalizing h with
  | nil => rwa [List.append_nil]
  | cons e later ih =>
    rw [List.append_cons]
    exact ih (custody.aside (hlater e List.mem_cons_self)) fun e he =>
      hlater e (List.mem_cons_of_mem _ he)

theorem Custody.obtained_eq (custody : Custody h none none none) : obtained h = released h := by
  rw [custody.held_eq, custody.leaving_eq, Option.toList_none, List.append_nil, List.append_nil]

theorem Custody.request (custody : Custody h none none none) :
    Custody (h ++ [.requested]) none none none := by
  have hall := custody.obtained_eq
  obtain ⟨orderly, hheld, hleaving, hcall⟩ := custody
  exact ⟨throughout_concat.mpr ⟨orderly, hall⟩, by simpa [obtained, givenUp] using hheld,
    by simpa [givenUp, released] using hleaving, by simpa [underWay?] using hcall⟩

theorem Custody.obtain (custody : Custody h none none none) (c : Channel) :
    Custody (h ++ [.obtained c]) (some c) none none := by
  have hall := custody.obtained_eq
  obtain ⟨orderly, hheld, hleaving, hcall⟩ := custody
  exact ⟨throughout_concat.mpr ⟨orderly, hall⟩, by simpa [obtained, givenUp] using hheld,
    by simpa [givenUp, released] using hleaving, by simpa [underWay?] using hcall⟩

theorem Custody.bind (custody : Custody h (some c) none none) (x : T) (version : Nat) :
    Custody (h ++ [.bound c x version]) (some c) none (some (c, x)) := by
  obtain ⟨orderly, hheld, hleaving, hcall⟩ := custody
  exact ⟨throughout_concat.mpr ⟨orderly, hheld, hcall⟩,
    by simpa [obtained, givenUp] using hheld, by simpa [givenUp, released] using hleaving,
    by simp [underWay?]⟩

theorem Custody.accept {x : T} (custody : Custody h (some c) none (some (c, x))) :
    Custody (h ++ [.accepted c x]) (some c) none none := by
  obtain ⟨orderly, hheld, hleaving, hcall⟩ := custody
  exact ⟨throughout_concat.mpr ⟨orderly, hcall⟩, by simpa [obtained, givenUp] using hheld,
    by simpa [givenUp, released] using hleaving, by simp [underWay?]⟩

/-- The loop begins to release the channel that it holds, whether or not an operand is under
way. -/
theorem Custody.leave (custody : Custody h (some c) none call) :
    Custody (h ++ [.releasing c]) none (some c) none := by
  obtain ⟨orderly, hheld, hleaving, -⟩ := custody
  exact ⟨throughout_concat.mpr ⟨orderly, hheld⟩, by simpa [obtained, givenUp] using hheld,
    by simpa [givenUp, released] using hleaving, by simp [underWay?]⟩

theorem Custody.release (custody : Custody h none (some c) none) :
    Custody (h ++ [.released c]) none none none := by
  obtain ⟨orderly, hheld, hleaving, hcall⟩ := custody
  exact ⟨throughout_concat.mpr ⟨orderly, hleaving⟩, by simpa [obtained, givenUp] using hheld,
    by simpa [givenUp, released] using hleaving, by simpa [underWay?] using hcall⟩

end Custody

/-! ### The custody of a loop -/

/-- The history of a loop is orderly, and unless a call broke down, it leaves the loop with the
channel at its waiting point. -/
def Keeps (h : List (Event T)) (l : Loop T) : Prop :=
  Throughout Orderly h ∧ (l.wait ≠ .crashed → Custody h l.channel? l.leaving? l.call?)

section Keeps

variable {policy : RetryPolicy} {h : List (Event T)} {s : Sight T} {l l' : Loop T}
  {deeds : List (Record T)}

theorem keeps_of_custody (custody : Custody h l.channel? l.leaving? l.call?) : Keeps h l :=
  ⟨custody.orderly, fun _ => custody⟩

/-- What the loop has follows from where it waits. -/
theorem Keeps.custody {wait : Wait T} (keeps : Keeps h l) (hwait : l.wait = wait)
    (hlive : wait ≠ .crashed) :
    Custody h ({ l with wait } : Loop T).channel? ({ l with wait } : Loop T).leaving?
      ({ l with wait } : Loop T).call? := by
  subst hwait
  exact keeps.2 hlive

/-- A loop that failed has no channel, and does nothing with any. -/
theorem Custody.aftermath {reason : Failure} (custody : Custody h none none none)
    (hafter : Aftermath s l reason deeds l') :
    Keeps (h ++ deeds.filterMap Record.event?) l' := by
  cases hafter with
  | rest | stop | giveUp =>
    refine keeps_of_custody (custody.asides fun e he => ?_)
    simp only [Record.event?, List.filterMap_cons, List.filterMap_nil, List.mem_cons,
      List.not_mem_nil, or_false] at he
    rcases he with rfl | rfl | rfl <;> rfl

theorem Keeps.leave {c : Channel} {verdict : Verdict} (keeps : Keeps h l)
    (hheld : l.channel? = some c) (notes : List (Event T))
    (hnotes : ∀ e ∈ notes, e.isAside = true) :
    Keeps (h ++ (notes ++ [.releasing c])) { l with wait := .releasing c verdict } := by
  obtain ⟨call, custody⟩ : ∃ call, Custody h (some c) none call := by
    cases hwait : l.wait with
    | replaying c' x | serving c' | applying c' x =>
      obtain rfl : c' = c := by simpa [channel?, hwait] using hheld
      exact ⟨_, keeps.custody hwait (by simp)⟩
    | spawned | creating | releasing | resting | finished | crashed =>
      simp [channel?, hwait] at hheld
  rw [← List.append_assoc]
  exact keeps_of_custody (custody.asides hnotes).leave

/-- **A passage keeps the custody.** -/
theorem Keeps.passage (keeps : Keeps h l) (passage : Passage s l deeds l') :
    Keeps (h ++ deeds.filterMap Record.event?) l' := by
  cases passage with
  | stay => simpa using keeps
  | attempt hwait hlive =>
    have custody : Custody h none none none := by
      rcases hwait with hwait | hwait <;> exact keeps.custody hwait (by simp)
    have requested := (custody.aside (e := .published (.connecting (l.failures + 1))) rfl).request
    rw [List.append_assoc] at requested
    exact keeps_of_custody requested
  | attemptStopped hwait hcancelled =>
    have custody : Custody h none none none := by
      rcases hwait with hwait | hwait <;> exact keeps.custody hwait (by simp)
    have closed := (custody.aside (e := .published (.connecting (l.failures + 1))) rfl).aside
      (e := .published .closed) rfl
    rw [List.append_assoc] at closed
    exact keeps_of_custody closed
  | stop hwait hcancelled =>
    have custody : Custody h none none none := by
      rcases hwait with hwait | hwait <;> exact keeps.custody hwait (by simp)
    exact keeps_of_custody (custody.aside rfl)
  | refuse hwait hafter =>
    have custody : Custody h none none none := keeps.custody hwait (by simp)
    have refused := custody.aftermath hafter
    exact refused
  | replay c hwait hlive =>
    have custody : Custody h none none none := keeps.custody hwait (by simp)
    have applying := (custody.obtain c).bind s.operand.value s.operand.version
    rw [List.append_assoc] at applying
    exact keeps_of_custody applying
  | obtainStopped c hwait hcancelled =>
    have custody : Custody h none none none := keeps.custody hwait (by simp)
    have leaving := (custody.obtain c).leave
    rw [List.append_assoc] at leaving
    exact keeps_of_custody leaving
  | replayStopped hwait hcancelled =>
    exact keeps.leave (by rw [channel?, hwait]) [] (by simp)
  | replayRejected reason hwait =>
    exact keeps.leave (by rw [channel?, hwait]) [] (by simp)
  | @establish c x hwait =>
    have custody : Custody h (some c) none (some (c, x)) := keeps.custody hwait (by simp)
    have established := (custody.accept.aside (e := .established c (l.generation + 1)) rfl).aside
      (e := .published (.connected (l.generation + 1))) rfl
    rw [List.append_assoc, List.append_assoc] at established
    exact keeps_of_custody established
  | withdraw hwait hcancelled =>
    exact keeps.leave (channel?_of_established hwait) [.withdrawn] (by simp [Event.isAside])
  | orphan hwait hlive hsession hseen hsupplied =>
    exact keeps.leave (by rw [channel?, hwait]) [.orphaned, .withdrawn] (by simp [Event.isAside])
  | lose ending hwait hlive hsession =>
    exact keeps.leave (channel?_of_established hwait) [.withdrawn] (by simp [Event.isAside])
  | reject reason hwait =>
    exact keeps.leave (by rw [channel?, hwait]) [.withdrawn] (by simp [Event.isAside])
  | @apply c hwait hlive hsession hseen =>
    have custody : Custody h (some c) none none := keeps.custody hwait (by simp)
    exact keeps_of_custody (custody.bind s.operand.value s.operand.version)
  | @accept c x hwait =>
    have custody : Custody h (some c) none (some (c, x)) := keeps.custody hwait (by simp)
    exact keeps_of_custody custody.accept
  | @releaseStopped c hwait =>
    have custody : Custody h none (some c) none := keeps.custody hwait (by simp)
    have closed := custody.release.aside (e := .published .closed) rfl
    rw [List.append_assoc] at closed
    exact keeps_of_custody closed
  | @releaseFailed c reason after l' hwait hafter =>
    have custody : Custody h none (some c) none := keeps.custody hwait (by simp)
    have released := custody.release.aftermath hafter
    rw [List.append_assoc] at released
    exact released
  | crash hcalling =>
    rw [List.filterMap_nil, List.append_nil]
    exact ⟨keeps.1, fun hlive => absurd rfl hlive⟩

/-- **Every loop keeps the custody of its channels.** -/
theorem Course.keeps {records : List (Record T)} (course : Course policy records l) :
    Keeps (records.filterMap Record.event?) l := by
  induction course with
  | start => exact keeps_of_custody custody_nil
  | step _ last ih =>
    obtain ⟨s, hstep⟩ := last
    rw [List.filterMap_append]
    exact ih.passage hstep.passage

end Keeps

end InterestMux.Loop
