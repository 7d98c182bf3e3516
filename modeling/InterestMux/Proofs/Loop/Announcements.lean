import InterestMux.Proofs.Loop.Custody
import InterestMux.Proofs.Loop.Ledger

/-!
# Announced channels

The loop announces a channel when this has taken its first operand, and then publishes that it is
connected. Both carry the generation, which counts the announcements. A channel that is given up
before it has taken its first operand is never announced.

## Main definitions

* `Loop.announcements`, `Loop.states` : what a history tells observers.
* `Loop.Ready` : when a channel may be announced, and a connection published.
* `Loop.Live` : a channel is announced and in use.

## Main results

* `Loop.Course.announcing` : every loop announces what is ready, and numbers it.
* `Loop.Live.obtained_eq` : a live channel is the one channel that the loop has not given up.
* `Loop.announcements_eq_nil` : a channel that took no operand is not announced.
-/

namespace InterestMux.Loop

variable {T : Type}

/-- The channels that the loop announced, oldest first, with their generations. -/
def announcements (events : List (Event T)) : List (Channel × Nat) :=
  events.filterMap fun
    | .established c generation => some (c, generation)
    | _ => none

/-- The states that the loop published, oldest first. -/
def states (events : List (Event T)) : List ConnectionState :=
  events.filterMap fun
    | .published state => some state
    | _ => none

/-- A channel may be announced just when it has taken the operand that it was given first, under the
next generation. The connection may be published just after that, under the same generation. -/
def Ready (before : List (Event T)) : Event T → Prop
  | .established c generation => generation = (announcements before).length + 1 ∧
      ∃ earlier x version, before = earlier ++ [.obtained c, .bound c x version, .accepted c x]
  | .published (.connected generation) =>
    ∃ earlier c, before = earlier ++ [.established c generation]
  | _ => True

/-- An operand is handed over or taken. -/
def Event.isOperand : Event T → Bool
  | .bound _ _ _ | .accepted _ _ => true
  | _ => false

/-- The channel took its first operand, was announced, and has only been given operands since. -/
def Live (events : List (Event T)) (c : Channel) : Prop :=
  ∃ earlier x version generation later, (∀ e ∈ later, e.isOperand = true) ∧
    events = earlier ++ .obtained c :: .bound c x version :: .accepted c x ::
      .established c generation :: .published (.connected generation) :: later

/-- The channel that the loop got last has taken an operand. -/
def hasTaken (events : List (Event T)) : Bool :=
  events.foldl (fun taken e =>
    match e with
    | .obtained _ => false
    | .accepted _ _ => true
    | _ => taken) false

section Histories

variable {h later : List (Event T)} {c : Channel}

theorem announcements_append (h later : List (Event T)) :
    announcements (h ++ later) = announcements h ++ announcements later :=
  List.filterMap_append

theorem states_append (h later : List (Event T)) :
    states (h ++ later) = states h ++ states later :=
  List.filterMap_append

theorem map_snd_announcements (ready : Throughout Ready h) :
    (announcements h).map Prod.snd = List.range' 1 (announcements h).length := by
  induction h using List.reverseRecOn with
  | nil => rfl
  | append_singleton h e ih =>
    obtain ⟨hbefore, he⟩ := throughout_concat.mp ready
    rw [announcements_append]
    cases e with
    | established c generation =>
      obtain ⟨rfl, -⟩ := he
      have hone : announcements [(.established c ((announcements h).length + 1) : Event T)] =
          [(c, (announcements h).length + 1)] := rfl
      rw [hone, List.map_append, ih hbefore, List.length_append, List.length_singleton,
        List.range'_concat, Nat.one_mul, Nat.add_comm 1]
      rfl
    | _ => simpa [announcements] using ih hbefore

theorem filterMap_operands {β : Type} {f : Event T → Option β}
    (hlater : ∀ e ∈ later, e.isOperand = true)
    (hbound : ∀ c x version, f (.bound c x version) = none)
    (haccepted : ∀ c x, f (.accepted c x) = none) : later.filterMap f = [] := by
  refine List.filterMap_eq_nil_iff.mpr fun e he => ?_
  have hoperand := hlater e he
  cases e with
  | bound c x version => exact hbound c x version
  | accepted c x => exact haccepted c x
  | _ => cases hoperand

theorem Live.getLast?_announcements (live : Live h c) :
    ((announcements h).map Prod.fst).getLast? = some c := by
  obtain ⟨earlier, x, version, generation, later, hlater, rfl⟩ := live
  have hnone : announcements later = [] :=
    filterMap_operands hlater (fun _ _ _ => rfl) fun _ _ => rfl
  simp only [announcements, List.filterMap_append, List.filterMap_cons, List.map_append] at hnone ⊢
  rw [hnone]
  exact List.getLast?_concat

/-- A live channel is the one channel that the loop has not begun to release. -/
theorem Live.obtained_eq (live : Live h c) (orderly : Throughout Orderly h) :
    obtained h = givenUp h ++ [c] := by
  obtain ⟨earlier, x, version, generation, later, hlater, rfl⟩ := live
  obtain ⟨hearlier, hfirst⟩ := throughout_append.mp orderly
  have hall : obtained earlier = givenUp earlier := by
    have hreleased : obtained earlier = released earlier := by
      simpa [Orderly] using (throughout_cons.mp hfirst).1
    obtain ⟨hle, hle', -⟩ := length_obtained_le hearlier
    rw [← hreleased] at hle
    exact hle.eq_of_length (Nat.le_antisymm hle.length_le hle'.length_le)
  have hobtained : obtained later = [] :=
    filterMap_operands hlater (fun _ _ _ => rfl) fun _ _ => rfl
  have hgivenUp : givenUp later = [] :=
    filterMap_operands hlater (fun _ _ _ => rfl) fun _ _ => rfl
  simp only [obtained, givenUp, List.filterMap_append, List.filterMap_cons]
    at hall hobtained hgivenUp ⊢
  rw [hall, hobtained, hgivenUp, List.append_nil]

/-- As long as no operand is taken after the loop got a channel, nothing is at hand. -/
theorem hasTaken_eq_false {earlier : List (Event T)} (hnone : ∀ c x, .accepted c x ∉ later) :
    hasTaken (earlier ++ .obtained c :: later) = false := by
  rw [hasTaken, List.foldl_append, List.foldl_cons]
  induction later with
  | nil => rfl
  | cons e later ih =>
    have hrest := ih fun c x hmem => hnone c x (List.mem_cons_of_mem _ hmem)
    cases e with
    | accepted c x => exact absurd List.mem_cons_self (hnone c x)
    | _ => exact hrest

theorem Live.hasTaken_eq (live : Live h c) : hasTaken h = true := by
  obtain ⟨earlier, x, version, generation, later, hlater, rfl⟩ := live
  rw [hasTaken, List.foldl_append]
  simp only [List.foldl_cons]
  induction later with
  | nil => rfl
  | cons e later ih =>
    have hrest := ih fun e he => hlater e (List.mem_cons_of_mem _ he)
    have hoperand := hlater e List.mem_cons_self
    cases e with
    | bound | accepted => exact hrest
    | _ => cases hoperand

/-- As long as no operand is taken after the loop got a channel, none is announced. -/
theorem announcements_eq_nil {earlier : List (Event T)}
    (ready : Throughout Ready (earlier ++ .obtained c :: later))
    (hnone : ∀ c x, .accepted c x ∉ later) : announcements later = [] := by
  refine List.filterMap_eq_nil_iff.mpr fun e he => ?_
  cases e with
  | established c' generation =>
    obtain ⟨before, after, rfl⟩ := List.append_of_mem he
    obtain ⟨-, start, x, version, hstart⟩ :=
      ready (earlier ++ .obtained c :: before) (.established c' generation) after (by simp)
    have htaken : hasTaken (earlier ++ .obtained c :: before) = true := by
      rw [hstart, hasTaken, List.foldl_append]
      rfl
    have huntaken : hasTaken (earlier ++ .obtained c :: before) = false :=
      hasTaken_eq_false fun c x hmem => hnone c x (List.mem_append_left _ hmem)
    rw [htaken] at huntaken
    cases huntaken
  | _ => rfl

end Histories

/-! ### Passages -/

/-- What tells observers that a channel is there. -/
def Event.isNews : Event T → Bool
  | .established _ _ | .published (.connected _) => true
  | _ => false

/-- Where the loop waits for a channel to take its first operand, it got the channel and handed the
operand over just before. An established channel is live. -/
def Presents (h : List (Event T)) (l : Loop T) : Prop :=
  match l.wait with
  | .replaying c x => ∃ earlier version, h = earlier ++ [.obtained c, .bound c x version]
  | .serving c | .applying c _ => Live h c
  | _ => True

/-- The loop announces what is ready, counts it, and publishes as many connections. -/
structure Announcing (h : List (Event T)) (l : Loop T) : Prop where
  ready : Throughout Ready h
  generation_eq : l.generation = (announcements h).length
  connected_eq : generations (states h) = (announcements h).map Prod.snd
  presents : Presents h l

section Announcing

variable {policy : RetryPolicy} {h later : List (Event T)} {s : Sight T} {l l' : Loop T}
  {deeds : List (Record T)}

theorem Announcing.quiet (announcing : Announcing h l)
    (hquiet : later.any Event.isNews = false) (hgeneration : l'.generation = l.generation)
    (presents : Presents (h ++ later) l') : Announcing (h ++ later) l' := by
  have hold (e : Event T) (he : e ∈ later) : e.isNews = false :=
    Bool.eq_false_iff.mpr (List.any_eq_false.mp hquiet e he)
  have hnone : announcements later = [] := by
    refine List.filterMap_eq_nil_iff.mpr fun e he => ?_
    have hold := hold e he
    cases e with
    | established => cases hold
    | _ => rfl
  have hstates : generations (states later) = [] := by
    refine List.filterMap_eq_nil_iff.mpr fun state hstate => ?_
    obtain ⟨e, he, hpublished⟩ := List.mem_filterMap.mp hstate
    have hold := hold e he
    cases e with
    | published state' =>
      obtain rfl := Option.some.inj hpublished
      cases state' with
      | connected => cases hold
      | _ => rfl
    | _ => cases hpublished
  have hsame : announcements (h ++ later) = announcements h := by
    rw [announcements_append, hnone, List.append_nil]
  refine ⟨throughout_append.mpr ⟨announcing.ready, ?_⟩, ?_, ?_, presents⟩
  · rintro before e after rfl
    have hold := hold e (by simp)
    cases e with
    | established => cases hold
    | published state =>
      cases state with
      | connected => cases hold
      | _ => trivial
    | _ => trivial
  · rw [hgeneration, hsame]
    exact announcing.generation_eq
  · rw [states_append, generations_append, hstates, List.append_nil, hsame]
    exact announcing.connected_eq

theorem Live.operand {c : Channel} (live : Live h c) {e : Event T} (he : e.isOperand = true) :
    Live (h ++ [e]) c := by
  obtain ⟨earlier, x, version, generation, later, hlater, rfl⟩ := live
  refine ⟨earlier, x, version, generation, later ++ [e], fun e' he' => ?_, by simp⟩
  rcases List.mem_append.mp he' with he' | he'
  · exact hlater e' he'
  · obtain rfl := List.mem_singleton.mp he'
    exact he

/-- A channel that has taken its first operand is announced, and published as connected. -/
theorem Announcing.establish {earlier : List (Event T)} {c : Channel} {x : T} {version : Nat}
    (announcing : Announcing (earlier ++ [.obtained c, .bound c x version]) l) :
    Announcing (earlier ++ [.obtained c, .bound c x version] ++
        [.accepted c x, .established c (l.generation + 1),
          .published (.connected (l.generation + 1))])
      { l with generation := l.generation + 1, failures := 0, wait := .serving c } := by
  obtain ⟨ready, hgeneration, hconnected, -⟩ := announcing
  have hmore : announcements (earlier ++ [.obtained c, .bound c x version] ++
      [.accepted c x, .established c (l.generation + 1),
        .published (.connected (l.generation + 1))]) =
      announcements (earlier ++ [.obtained c, .bound c x version]) ++ [(c, l.generation + 1)] :=
    announcements_append _ _
  constructor
  case ready =>
    have taken : Throughout Ready (_ ++ [.accepted c x]) :=
      throughout_concat.mpr ⟨ready, trivial⟩
    have hsame : announcements (earlier ++ [.obtained c, .bound c x version] ++ [.accepted c x]) =
        announcements (earlier ++ [.obtained c, .bound c x version]) := by
      rw [announcements_append _ [.accepted c x]]
      exact List.append_nil _
    have announced : Throughout Ready (_ ++ [.established c (l.generation + 1)]) :=
      throughout_concat.mpr ⟨taken, by rw [hsame, hgeneration], earlier, x, version,
        List.append_assoc _ _ _⟩
    have connected : Throughout Ready (_ ++ [.published (.connected (l.generation + 1))]) :=
      throughout_concat.mpr ⟨announced, _, c, rfl⟩
    rw [List.append_assoc, List.append_assoc] at connected
    exact connected
  case generation_eq =>
    rw [hmore, List.length_append, hgeneration]
    rfl
  case connected_eq =>
    rw [hmore, states_append, generations_append, hconnected, List.map_append]
    rfl
  case presents =>
    exact ⟨earlier, x, version, l.generation + 1, [], by simp, by simp⟩

/-- **A passage announces what is ready, and numbers it.** -/
theorem Announcing.passage (announcing : Announcing h l) (passage : Passage s l deeds l') :
    Announcing (h ++ deeds.filterMap Record.event?) l' := by
  have presents := announcing.presents
  cases passage with
  | stay => simpa using announcing
  | replay c hwait hlive =>
    exact announcing.quiet rfl rfl ⟨h, _, rfl⟩
  | @establish c x hwait =>
    rw [Presents, hwait] at presents
    obtain ⟨earlier, version, rfl⟩ := presents
    exact announcing.establish
  | apply hwait hlive hsession hseen =>
    rw [Presents, hwait] at presents
    exact announcing.quiet rfl rfl (presents.operand rfl)
  | accept hwait =>
    rw [Presents, hwait] at presents
    exact announcing.quiet rfl rfl (presents.operand rfl)
  | refuse _ hafter | releaseFailed _ hafter =>
    cases hafter <;> exact announcing.quiet rfl rfl trivial
  | attempt | attemptStopped | stop | obtainStopped | replayStopped | replayRejected | withdraw
  | orphan | lose | reject | releaseStopped | crash =>
    exact announcing.quiet rfl rfl trivial

/-- **Every loop announces what is ready, and numbers it.** -/
theorem Course.announcing {records : List (Record T)} (course : Course policy records l) :
    Announcing (records.filterMap Record.event?) l := by
  induction course with
  | start => exact ⟨throughout_nil _, rfl, rfl, trivial⟩
  | step _ last ih =>
    obtain ⟨s, hstep⟩ := last
    rw [List.filterMap_append]
    exact ih.passage hstep.passage

end Announcing

end InterestMux.Loop
