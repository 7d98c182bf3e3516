import InterestMux.Proofs.Connection.Operands
import InterestMux.Proofs.Connection.SoleChannel

/-!
# How operands are handed over

The loop hands each channel the latest operand that there is, and then every later one that it
comes to see. It remembers the version that it handed over last, over all channels, so versions
never go back, and on one channel they go up. Operands that come while the loop is busy are
skipped for the latest; when the loop has come to rest on a channel, this has taken the latest.

## Main definitions

* `Loop.bindings` : what the loop handed over, and to which of its channels.
* `Loop.TookLast` : which operand a channel took last.
* `Connection.operands` : the operands of a run, numbered by their versions.
* `Connection.HandsOver`

## Main results

* `Loop.Handing.passage` : a passage hands over what is later than all before.
* `Connection.Run.handsOver` : every run hands over the latest operands, in order, and stops for
  want of operands only when the channel has taken the last.
-/

namespace InterestMux

namespace Loop

variable {T : Type}

/-- An operand that is handed to a channel. -/
structure Binding (T : Type) where
  /-- How many channels the loop got up to then. The last of them is the one at hand. -/
  ordinal : Nat
  channel : Channel
  operand : Watch T
deriving DecidableEq

/-- What the loop hands over if it has got `n` channels before. -/
def bindingsFrom (n : Nat) : List (Event T) → List (Binding T)
  | [] => []
  | .obtained _ :: events => bindingsFrom (n + 1) events
  | .bound c x version :: events => ⟨n, c, ⟨x, version⟩⟩ :: bindingsFrom n events
  | _ :: events => bindingsFrom n events

/-- What the loop handed over, oldest first. -/
def bindings (events : List (Event T)) : List (Binding T) :=
  bindingsFrom 0 events

/-- An operand may be handed over before another one that is no older. If both go to one channel,
the other one has to be newer. -/
def Binding.Precedes (b later : Binding T) : Prop :=
  b.ordinal ≤ later.ordinal ∧ b.operand.version ≤ later.operand.version ∧
    (b.ordinal = later.ordinal → b.operand.version < later.operand.version)

/-- The channel took the operand, and that is the last thing that the loop did with channels. -/
def TookLast (events : List (Event T)) (c : Channel) (operand : Watch T) : Prop :=
  ∃ earlier later, (∀ e ∈ later, e.isAside = true) ∧ events =
    earlier ++ .bound c operand.value operand.version :: .accepted c operand.value :: later

theorem bindingsFrom_append (n : Nat) (events later : List (Event T)) :
    bindingsFrom n (events ++ later) =
      bindingsFrom n events ++ bindingsFrom (n + (obtained events).length) later := by
  induction events generalizing n with
  | nil => rfl
  | cons e events ih =>
    cases e with
    | obtained c =>
      have hcount : n + (obtained (.obtained c :: events)).length =
          n + 1 + (obtained events).length := by
        simp only [obtained, List.filterMap_cons, List.length_cons]
        omega
      rw [hcount]
      exact ih (n + 1)
    | bound c x version => exact congrArg (_ :: ·) (ih n)
    | _ => exact ih n

theorem bindings_append (events later : List (Event T)) :
    bindings (events ++ later) =
      bindings events ++ bindingsFrom (obtained events).length later := by
  rw [bindings, bindingsFrom_append, Nat.zero_add, bindings]

theorem obtained_append (events later : List (Event T)) :
    obtained (events ++ later) = obtained events ++ obtained later :=
  List.filterMap_append

theorem bound_mem_of_mem_bindingsFrom {n : Nat} {events : List (Event T)} {b : Binding T}
    (hb : b ∈ bindingsFrom n events) :
    .bound b.channel b.operand.value b.operand.version ∈ events := by
  induction events generalizing n with
  | nil => cases hb
  | cons e events ih =>
    cases e with
    | bound c x version =>
      rcases List.mem_cons.mp hb with rfl | hb
      · exact List.mem_cons_self
      · exact List.mem_cons_of_mem _ (ih hb)
    | _ => exact List.mem_cons_of_mem _ (ih hb)

/-- In an orderly history every operand goes to the last channel that the loop got. -/
theorem channel_of_mem_bindings {h : List (Event T)} (orderly : Throughout Orderly h)
    {b : Binding T} (hb : b ∈ bindings h) :
    b.ordinal ≤ (obtained h).length ∧ ((obtained h).take b.ordinal).getLast? = some b.channel := by
  induction h using List.reverseRecOn with
  | nil => cases hb
  | append_singleton h e ih =>
    obtain ⟨hbefore, he⟩ := throughout_concat.mp orderly
    rw [bindings_append, List.mem_append] at hb
    rcases hb with hb | hb
    · obtain ⟨hle, hchannel⟩ := ih hbefore hb
      rw [obtained_append, List.length_append, List.take_append_of_le_length hle]
      exact ⟨by omega, hchannel⟩
    · cases e with
      | bound c x version =>
        obtain ⟨hheld, -⟩ : obtained h = givenUp h ++ [c] ∧ underWay? h = none := he
        obtain rfl := List.mem_singleton.mp hb
        have hsame : obtained (h ++ [.bound c x version]) = obtained h := by simp [obtained]
        rw [hsame, List.take_length, hheld]
        exact ⟨Nat.le_refl _, List.getLast?_concat⟩
      | _ => cases hb

/-! ### Passages -/

/-- Where the loop waits for a channel to take an operand, it handed that over just now. Where it is
idle, the channel took the operand that the loop has seen last. -/
def AtHand (events : List (Event T)) (l : Loop T) : Prop :=
  match l.wait with
  | .replaying c x | .applying c x => ∃ earlier, events = earlier ++ [.bound c x l.seen]
  | .serving c => ∃ x, TookLast events c ⟨x, l.seen⟩
  | _ => True

/-- A loop has handed over operands in order, and none that it has not seen. -/
structure Handing (events : List (Event T)) (l : Loop T) : Prop where
  in_order : (bindings events).Pairwise Binding.Precedes
  seen : ∀ b ∈ bindings events, b.ordinal ≤ (obtained events).length ∧ b.operand.version ≤ l.seen
  at_hand : AtHand events l

section Handing

variable {events later : List (Event T)} {l l' : Loop T} {s : Sight T}

theorem Handing.rest (handing : Handing events l)
    (hnone : bindingsFrom (obtained events).length later = []) (hseen : l.seen ≤ l'.seen)
    (hand : AtHand (events ++ later) l') : Handing (events ++ later) l' := by
  have hsame : bindings (events ++ later) = bindings events := by
    rw [bindings_append, hnone, List.append_nil]
  refine ⟨hsame ▸ handing.in_order, fun b hb => ?_, hand⟩
  obtain ⟨hordinal, hversion⟩ := handing.seen b (hsame ▸ hb)
  rw [obtained_append, List.length_append]
  exact ⟨by omega, by omega⟩

/-- One more operand is handed over, to a new channel or to the same. -/
theorem Handing.bind (handing : Handing events l) {b : Binding T}
    (hb : bindingsFrom (obtained events).length later = [b])
    (hordinal : b.ordinal = (obtained (events ++ later)).length)
    (hseen : l'.seen = b.operand.version) (hle : l.seen ≤ l'.seen)
    (hlt : b.ordinal = (obtained events).length → l.seen < l'.seen)
    (hand : AtHand (events ++ later) l') : Handing (events ++ later) l' := by
  have hmore : bindings (events ++ later) = bindings events ++ [b] := by
    rw [bindings_append, hb]
  have hcount : (obtained events).length ≤ b.ordinal := by
    rw [hordinal, obtained_append, List.length_append]
    omega
  refine ⟨?_, fun b' hb' => ?_, hand⟩
  · rw [hmore, List.pairwise_append]
    refine ⟨handing.in_order, List.pairwise_singleton _ _, fun b' hb' b'' hb'' => ?_⟩
    obtain rfl := List.mem_singleton.mp hb''
    obtain ⟨hordinal', hversion⟩ := handing.seen b' hb'
    refine ⟨by omega, by omega, fun hsame => ?_⟩
    have := hlt (by omega)
    omega
  · rw [hmore, List.mem_append, List.mem_singleton] at hb'
    rcases hb' with hb' | rfl
    · obtain ⟨hordinal', hversion⟩ := handing.seen b' hb'
      exact ⟨by omega, by omega⟩
    · exact ⟨by omega, by omega⟩

/-- **A passage hands over what is later than all before**, as long as the loop sees no operand
that is older than the one it has seen last. -/
theorem Handing.passage {deeds : List (Record T)} (handing : Handing events l)
    (hnew : l.seen ≤ s.operand.version) (passage : Passage s l deeds l') :
    Handing (events ++ deeds.filterMap Record.event?) l' := by
  have hand := handing.at_hand
  cases passage with
  | stay => simpa using handing
  | replay c hwait hlive =>
    refine handing.bind rfl ?_ rfl hnew (fun hsame => absurd hsame ?_) ?_
    · rw [obtained_append, List.length_append]
      rfl
    · exact Nat.succ_ne_self _
    · exact ⟨events ++ [.obtained c], by simp [Record.event?]⟩
  | apply hwait hlive hsession hchanged =>
    refine handing.bind rfl ?_ rfl hnew (fun _ => ?_) ⟨events, rfl⟩
    · rw [obtained_append, List.length_append]
      rfl
    · have hne : s.operand.version ≠ l.seen := by simpa [Watch.changedSince] using hchanged
      exact Nat.lt_of_le_of_ne hnew (Ne.symm hne)
  | @establish c x hwait =>
    refine handing.rest rfl (Nat.le_refl _) ?_
    rw [AtHand, hwait] at hand
    obtain ⟨earlier, rfl⟩ := hand
    exact ⟨x, earlier,
      [.established c (l.generation + 1), .published (.connected (l.generation + 1))],
      by simp [Event.isAside], by simp [Record.event?]⟩
  | @accept c x hwait =>
    refine handing.rest rfl (Nat.le_refl _) ?_
    rw [AtHand, hwait] at hand
    obtain ⟨earlier, rfl⟩ := hand
    exact ⟨x, earlier, [], by simp, by simp [Record.event?]⟩
  | obtainStopped => exact handing.rest rfl hnew trivial
  | refuse _ hafter | releaseFailed _ hafter =>
    cases hafter <;> exact handing.rest rfl (Nat.le_refl _) trivial
  | attempt | attemptStopped | stop | replayStopped | replayRejected | withdraw | orphan | lose
  | reject | releaseStopped | crash => exact handing.rest rfl (Nat.le_refl _) trivial

end Handing

section Passage

variable {s : Sight T} {l l' : Loop T} {deeds : List (Record T)} {c : Channel}

theorem Passage.operand_eq_of_bound {x : T} {version : Nat} (passage : Passage s l deeds l')
    (h : .did (.bound c x version) ∈ deeds) : s.operand = ⟨x, version⟩ := by
  cases passage with
  | replay | apply =>
    obtain ⟨rfl, rfl, rfl⟩ : c = _ ∧ x = s.operand.value ∧ version = s.operand.version := by
      simpa using h
    rfl
  | refuse _ hafter | releaseFailed _ hafter => cases hafter <;> simp at h
  | _ => simp at h

/-- With the channel that it got the loop does one thing: it hands over the latest operand, or it
is to stop and begins the release. -/
theorem Passage.eq_of_obtained (passage : Passage s l deeds l') (h : .did (.obtained c) ∈ deeds) :
    deeds = [.did (.obtained c),
      if s.cancelled then .did (.releasing c)
      else .did (.bound c s.operand.value s.operand.version)] := by
  cases passage with
  | replay c' _ hcancelled | obtainStopped c' _ hcancelled =>
    obtain rfl : c = c' := by simpa using h
    rw [hcancelled]
    rfl
  | refuse _ hafter | releaseFailed _ hafter => cases hafter <;> simp at h
  | _ => simp at h

/-- A loop that stops for want of operands is idle and has seen the latest. -/
theorem Passage.wait_of_orphaned (passage : Passage s l deeds l') (h : .did .orphaned ∈ deeds) :
    ∃ c, l.wait = .serving c ∧ s.supplied = false ∧ l.seen = s.operand.version := by
  cases passage with
  | @orphan c hwait _ _ hseen hsupplied =>
    have hlatest : s.operand.version = l.seen := by simpa [Watch.changedSince] using hseen
    exact ⟨c, hwait, hsupplied, hlatest.symm⟩
  | refuse _ hafter | releaseFailed _ hafter => cases hafter <;> simp at h
  | _ => simp at h

end Passage

end Loop

namespace Connection

variable {T : Type}

/-- The operand that a turn publishes. -/
def Turn.offer? (t : Turn T) : Option T :=
  match t.move with
  | .publish x => some x
  | _ => none

/-- The operands of a run, oldest first. The version of an operand is its position. -/
def operands (first : T) (turns : List (Turn T)) : List T :=
  first :: turns.filterMap Turn.offer?

/-- What a turn hands over is the latest operand. A new channel gets it at once, unless the loop is
to stop. The loop stops for want of operands only when the current channel has taken the latest. -/
structure Hands (before : List (Turn T)) (t : Turn T) : Prop where
  latest : ∀ c x version, .loop (.bound c x version) ∈ t.deeds → t.before.operand = ⟨x, version⟩
  replay : ∀ c, .loop (.obtained c) ∈ t.deeds → t.deeds = [.loop (.obtained c),
    if t.before.connection.cancelled then .loop (.releasing c)
    else .loop (.bound c t.before.operand.value t.before.operand.version)]
  orphan : .loop .orphaned ∈ t.deeds → t.before.supplied = false ∧
    ∃ c, t.before.connection.current = some c ∧
      Loop.TookLast (events before) c t.before.operand

/-- The latest operand is handed over at every turn, in order and without loss. -/
structure HandsOver (first : T) (turns : List (Turn T)) (w : Situation T) : Prop where
  /-- The latest operand is the last one published, and its version counts the publications. -/
  operand_eq : ∃ earlier, operands first turns = earlier ++ [w.operand.value] ∧
    earlier.length = w.operand.version
  turnwise : Throughout Hands turns
  /-- Every operand that is handed over has the version that tells its position, and goes to the
  last channel that the loop got. -/
  numbered : ∀ b ∈ Loop.bindings (events turns),
    (operands first turns)[b.operand.version]? = some b.operand.value ∧
      ((Loop.obtained (events turns)).take b.ordinal).getLast? = some b.channel
  in_order : (Loop.bindings (events turns)).Pairwise Loop.Binding.Precedes
  /-- Where the loop is idle and finds nothing to do, the current channel has taken the latest. -/
  idle : ∀ l c ended, w.connection.loop = some l → l.wait = .serving c →
    w.connection.notice? w.operand w.supplied ended = none →
      w.connection.current = some c ∧ Loop.TookLast (events turns) c w.operand
  /-- No operand comes after the one with which the loop stopped. -/
  final : ∀ t ∈ turns, .loop .orphaned ∈ t.deeds → w.operand = t.before.operand

/-- **The loop of a connection hands over operands in order**, whatever happens. -/
theorem Course.handing {channels : Ring Channel} {operand : Watch T} {h : List (Deed T)}
    {w : Situation T} (course : Course channels operand h w) :
    ∀ l, w.connection.loop = some l → Loop.Handing (h.filterMap Deed.event?) l := by
  induction course with
  | start => exact fun l hl => by cases hl
  | @step h w deeds w' before last ih =>
    intro l' hl'
    rw [List.filterMap_append]
    rcases loop_of_step last with spares | ⟨policy, hloop, rfl, rfl⟩ | passes
    · rw [spares.filterMap_event?, List.append_nil]
      exact ih l' (spares.loop_eq ▸ hl')
    · have hnone : h.filterMap Deed.event? = [] := by
        simpa [Follows, hloop] using Course.follows before
      obtain rfl := Option.some.inj hl'
      rw [hnone]
      exact ⟨.nil, fun _ hb => absurd hb List.not_mem_nil, trivial⟩
    · obtain ⟨l, l₀, records, s, hloop, passage, hoperand, -, -, rfl, rfl⟩ := passes
      obtain rfl : l₀ = l' := by simpa [Situation.follow] using hl'
      rw [filterMap_event?_loop]
      refine (ih l hloop).passage ?_ passage
      rw [hoperand]
      exact (Course.tracks before l hloop).1

theorem getLast?_acceptances {events : List (Loop.Event T)} {c : Channel} {operand : Watch T}
    (htook : Loop.TookLast events c operand) :
    (acceptances events).getLast? = some (c, operand.value) := by
  obtain ⟨earlier, later, haside, rfl⟩ := htook
  have hnone : acceptances later = [] := by
    refine List.filterMap_eq_nil_iff.mpr fun e he => ?_
    cases e with
    | accepted => cases haside _ he
    | _ => rfl
  simp only [acceptances, List.filterMap_append, List.filterMap_cons] at hnone ⊢
  rw [hnone]
  exact List.getLast?_concat

/-- A loop that is idle and has seen the latest operand has it taken by its channel. -/
theorem tookLast_of_seen {events : List (Loop.Event T)} {w : Situation T} {l : Loop T}
    {c : Channel} (handing : Loop.Handing events l) (htracks : Tracks events w)
    (hloop : w.connection.loop = some l) (hwait : l.wait = .serving c)
    (hseen : l.seen = w.operand.version) :
    w.connection.current = some c ∧ Loop.TookLast events c w.operand := by
  have hand := handing.at_hand
  obtain ⟨-, hknows⟩ := htracks l hloop
  simp only [Loop.AtHand, hwait] at hand hknows
  obtain ⟨x, hx⟩ := hand
  obtain ⟨hcurrent, y, hlast, hfresh⟩ := hknows
  obtain rfl : x = y := by simpa [getLast?_acceptances hx] using hlast
  obtain rfl := hfresh hseen
  rw [hseen] at hx
  exact ⟨hcurrent, hx⟩

theorem operand_of_play? {w w' : Situation T} {move : Move T} {deeds : List (Deed T)}
    (h : w.play? move = some (deeds, w')) :
    w'.operand = ((Turn.offer? ⟨w, move, deeds⟩).map w.operand.publish).getD w.operand := by
  cases played_of_play? h <;> rfl

theorem operand_of_not_supplied {w w' : Situation T} {move : Move T} {deeds : List (Deed T)}
    (h : w.play? move = some (deeds, w')) (hsupplied : w.supplied = false) :
    w'.operand = w.operand ∧ w'.supplied = false := by
  cases played_of_play? h with
  | publish x hstill =>
    rw [hsupplied] at hstill
    cases hstill
  | orphan => exact ⟨rfl, rfl⟩
  | start | close | drop | look | hear => exact ⟨rfl, hsupplied⟩

section Run

variable {history : Nat} {first : T} {turns : List (Turn T)} {w w' : Situation T}

theorem operands_concat (turns : List (Turn T)) (t : Turn T) :
    operands first (turns ++ [t]) = operands first turns ++ t.offer?.toList := by
  rw [operands, List.filterMap_append, ← List.cons_append, operands]
  cases hoffer : t.offer? <;> simp [hoffer]

/-- The latest operand of a run is the last, and its version is its position. -/
theorem Run.operand_eq (run : Run history first turns w) :
    ∃ earlier, operands first turns = earlier ++ [w.operand.value] ∧
      earlier.length = w.operand.version := by
  induction run with
  | start => exact ⟨[], rfl, rfl⟩
  | step _ last ih =>
    obtain ⟨move, deeds, hplay, rfl⟩ := last
    obtain ⟨earlier, hoperands, hlength⟩ := ih
    rw [operands_concat, operand_of_play? hplay, hoperands]
    cases Turn.offer? ⟨_, move, deeds⟩ with
    | none => exact ⟨earlier, List.append_nil _, hlength⟩
    | some x =>
      refine ⟨earlier ++ [_], rfl, ?_⟩
      rw [List.length_append, hlength]
      rfl

theorem mem_records_of_loop {records : List (Loop.Record T)} {e : Loop.Event T}
    (h : Deed.loop e ∈ (records.filterMap Loop.Record.event?).map .loop) : .did e ∈ records := by
  obtain ⟨e', he', heq⟩ := List.mem_map.mp h
  obtain ⟨record, hrecord, hevent⟩ := List.mem_filterMap.mp he'
  cases record with
  | failure => cases hevent
  | did e'' =>
    obtain rfl := Option.some.inj hevent
    obtain rfl := Deed.loop.inj heq
    exact hrecord

theorem Run.hands (run : Run history first turns w) {move : Move T} {deeds : List (Deed T)}
    (h : w.play? move = some (deeds, w')) : Hands turns ⟨w, move, deeds⟩ := by
  constructor
  case latest =>
    intro c x version hbound
    obtain ⟨l, l', records, s, -, passage, hoperand, -, -, rfl, -⟩ := passage_of_play? h hbound
    rw [← hoperand]
    exact passage.operand_eq_of_bound (mem_records_of_loop hbound)
  case replay =>
    intro c hobtained
    obtain ⟨l, l', records, s, -, passage, hoperand, hcancelled, -, rfl, -⟩ :=
      passage_of_play? h hobtained
    have hrecords := passage.eq_of_obtained (mem_records_of_loop hobtained)
    rw [hoperand, hcancelled] at hrecords
    rw [hrecords]
    cases w.connection.cancelled <;> rfl
  case orphan =>
    intro horphaned
    obtain ⟨l, l', records, s, hloop, passage, hoperand, -, hsupplied, rfl, -⟩ :=
      passage_of_play? h horphaned
    obtain ⟨c, hwait, hdropped, hseen⟩ :=
      passage.wait_of_orphaned (mem_records_of_loop horphaned)
    rw [hoperand] at hseen
    have handing := run.course.handing l hloop
    exact ⟨hsupplied hdropped, c, tookLast_of_seen handing run.course.tracks hloop hwait hseen⟩

theorem Run.numbered (run : Run history first turns w) :
    ∀ b ∈ Loop.bindings (events turns),
      (operands first turns)[b.operand.version]? = some b.operand.value := by
  induction run with
  | start => exact fun b hb => absurd hb List.not_mem_nil
  | @step turns w _ w' before last ih =>
    intro b hb
    obtain ⟨move, deeds, hplay, rfl⟩ := last
    rw [events_concat, Loop.bindings_append, List.mem_append] at hb
    rw [operands_concat]
    rcases hb with hb | hb
    · have hsome := ih b hb
      obtain ⟨hlt, -⟩ := List.getElem?_eq_some_iff.mp hsome
      rw [List.getElem?_append_left hlt]
      exact hsome
    · obtain ⟨deed, hdeed, hevent⟩ :=
        List.mem_filterMap.mp (Loop.bound_mem_of_mem_bindingsFrom hb)
      cases deed with
      | closed => cases hevent
      | loop e =>
        obtain rfl := Option.some.inj hevent
        have hlatest : w.operand = b.operand := (Run.hands before hplay).latest _ _ _ hdeed
        obtain ⟨earlier, hoperands, hlength⟩ := Run.operand_eq before
        rw [← hlatest, hoperands, ← hlength, List.append_assoc,
          List.getElem?_append_right (Nat.le_refl _), Nat.sub_self]
        rfl

theorem Run.final (run : Run history first turns w) :
    ∀ t ∈ turns, t.before.supplied = false → w.supplied = false ∧ w.operand = t.before.operand := by
  induction run with
  | start => exact fun t ht => absurd ht List.not_mem_nil
  | step _ last ih =>
    intro t ht hsupplied
    obtain ⟨move, deeds, hplay, rfl⟩ := last
    rcases List.mem_append.mp ht with ht | ht
    · obtain ⟨hdropped, hoperand⟩ := ih t ht hsupplied
      obtain ⟨hsame, hstill⟩ := operand_of_not_supplied hplay hdropped
      exact ⟨hstill, hsame.trans hoperand⟩
    · obtain rfl := List.mem_singleton.mp ht
      obtain ⟨hsame, hstill⟩ := operand_of_not_supplied hplay hsupplied
      exact ⟨hstill, hsame⟩

/-- **Operands are handed over latest first, in order and without loss.** Whatever is published,
and however channels fail and follow each other: what the loop hands to a channel is the latest
operand, first of all when the channel is new; the versions never go back, and go up on each
channel; an idle channel has taken the latest operand; and the loop stops for want of operands only
when the current channel has taken the last one of all. -/
theorem Run.handsOver (run : Run history first turns w) : HandsOver first turns w := by
  have orderly := run.keeps.1
  have handing := run.course.handing
  constructor
  case operand_eq => exact run.operand_eq
  case turnwise => exact run.throughout fun _ _ _ _ _ before hplay => before.hands hplay
  case numbered =>
    exact fun b hb => ⟨run.numbered b hb, (Loop.channel_of_mem_bindings orderly hb).2⟩
  case in_order =>
    rcases run.loop_course with ⟨-, hnone⟩ | ⟨l, -, -, hloop, -, -⟩
    · rw [hnone]
      exact .nil
    · exact (handing l hloop).in_order
  case idle =>
    intro l c ended hloop hwait hidle
    exact tookLast_of_seen (handing l hloop) run.course.tracks hloop hwait
      (seen_of_idle hloop hwait hidle)
  case final =>
    intro t ht horphaned
    obtain ⟨before, after, rfl⟩ := List.append_of_mem ht
    have hands := run.throughout (fun _ _ _ _ _ before hplay => before.hands hplay)
    exact (run.final t ht ((hands before t after rfl).orphan horphaned).1).2

end Run

/-- Operands are published before the first channel is there, while it is idle, and before the
second; then the operands lose their publisher. -/
theorem handsOver_of_reconnect :
    ∃ (turns : List (Turn Nat)) (w : Situation Nat), Run 4 0 turns w ∧
      Loop.bindings (events turns) = [⟨1, ⟨0, none⟩, ⟨1, 1⟩⟩, ⟨1, ⟨0, none⟩, ⟨3, 3⟩⟩,
        ⟨2, ⟨1, none⟩, ⟨4, 4⟩⟩] ∧
      .orphaned ∈ events turns ∧ HandsOver 0 turns w := by
  have started := Run.play (.start : Run 4 0 [] _) (.start {}) rfl
  have requested := (started.play (.look none) rfl).play (.publish 1) rfl
  have replayed := requested.play (.hear (.created ⟨0, none⟩)) rfl
  have established := replayed.play (.hear .applied) rfl
  have published := (established.play (.publish 2) rfl).play (.publish 3) rfl
  have applied := (published.play (.look none) rfl).play (.hear .applied) rfl
  have lost := applied.play (.look (some .completed)) rfl
  have resting := (lost.play (.publish 4) rfl).play (.hear .released) rfl
  have again := (resting.play (.hear .elapsed) rfl).play (.hear (.created ⟨1, none⟩)) rfl
  have idle := again.play (.hear .applied) rfl
  have run := (idle.play .orphan rfl).play (.look none) rfl
  exact ⟨_, _, run, rfl, by decide, run.handsOver⟩

end Connection

end InterestMux
