import InterestMux.Proofs.Evictor.Course
import Mathlib.Data.List.Induction
import Mathlib.Data.List.Nodup
import Mathlib.Data.List.Pairwise

/-!
# Rounds of eviction

The evictor stands at the end of the ring when it begins a round, so the next round waits for a
newer announcement: rounds are held one at a time, for later and later generations, each for the
newest generation of its time. And since the evictor does not rest before it comes to the end of the
ring, the newest generation is not left without its round.

## Main definitions

* `Evictor.generations`, `Evictor.rounds`, `Evictor.consumed` : what a history tells.
* `Evictor.Orderly` : when a round may begin, and when it may end.
* `Evictor.Pursues` : where the evictor stands agrees with the history.

## Main results

* `Evictor.increasing_rounds`, `Evictor.sourced_rounds`, `Evictor.begun_eq`,
  `Evictor.nodup_map_rounds` : what follows for the rounds of an orderly history.
* `Evictor.Course.pursues` : every evictor pursues the announcements.
* `Evictor.Pursues.newest_evicted` : an evictor that has nothing to do has held the round of the
  newest channel.
-/

namespace InterestMux.Evictor

/-! ### Histories -/

/-- The channels announced in a history, oldest first. -/
def announced (h : List Deed) : List Channel :=
  h.filterMap fun
    | .announced c => some c
    | .did _ => none

/-- The announced channels with their generations, which count from one. -/
def generations (h : List Deed) : List (Channel × Nat) :=
  (announced h).zipIdx 1

/-- How many announcements the evictor has taken, skipped or lost. -/
def consumed : List Deed → Nat
  | [] => 0
  | .did (.taken _ skipped) :: h => skipped + 1 + consumed h
  | .did (.lagged lost) :: h => lost + consumed h
  | _ :: h => consumed h

/-- The rounds in a history that begins after so many announcements, each with the generation that
is the newest when it begins, and with the source that it spares. -/
def roundsFrom (generation : Nat) : List Deed → List (Nat × Source)
  | [] => []
  | .announced _ :: h => roundsFrom (generation + 1) h
  | .did (.began source) :: h => (generation, source) :: roundsFrom generation h
  | .did _ :: h => roundsFrom generation h

/-- The rounds in a history, each with its generation and the source that it spares. -/
def rounds (h : List Deed) : List (Nat × Source) :=
  roundsFrom 0 h

/-- The sources of the rounds that began, oldest first. -/
def begun (h : List Deed) : List Source :=
  h.filterMap fun
    | .did (.began source) => some source
    | _ => none

/-- The sources of the rounds that ended, oldest first. -/
def ended (h : List Deed) : List Source :=
  h.filterMap fun
    | .did (.evicted _ source) | .did (.failed _ source) => some source
    | _ => none

/-- The source of the round under way, if there is one. -/
def underWay? (h : List Deed) : Option Source :=
  h.foldl (fun round deed =>
    match deed with
    | .did (.began source) => some source
    | .did (.evicted _ _) | .did (.failed _ _) => none
    | _ => round) none

/-- A round begins only while none is under way. It spares the source of the channel that was
announced last, whose generation has had no round yet, nor has a later one. Only the round under
way ends. -/
def Orderly (before : List Deed) : Deed → Prop
  | .did (.began source) => underWay? before = none ∧
      (∃ newest, (announced before).getLast? = some newest ∧ newest.source = some source) ∧
      ∀ round ∈ rounds before, round.1 < (announced before).length
  | .did (.evicted _ source) | .did (.failed _ source) => underWay? before = some source
  | _ => True

section Histories

variable {h later : List Deed}

@[simp] theorem announced_append (h later : List Deed) :
    announced (h ++ later) = announced h ++ announced later :=
  List.filterMap_append

theorem consumed_append (h later : List Deed) :
    consumed (h ++ later) = consumed h + consumed later := by
  induction h with
  | nil => simp [consumed]
  | cons deed h ih =>
    cases deed with
    | announced c => simpa [consumed] using ih
    | did e => cases e <;> simp [consumed, ih, Nat.add_assoc]

theorem roundsFrom_append (generation : Nat) (h later : List Deed) :
    roundsFrom generation (h ++ later) =
      roundsFrom generation h ++ roundsFrom (generation + (announced h).length) later := by
  induction h generalizing generation with
  | nil => rfl
  | cons deed h ih =>
    cases deed with
    | announced c =>
      have hlength : (announced (.announced c :: h)).length = (announced h).length + 1 := rfl
      rw [List.cons_append, roundsFrom, ih, roundsFrom, hlength, Nat.add_assoc, Nat.add_comm 1]
    | did e =>
      have hsame : announced (.did e :: h) = announced h := rfl
      cases e <;> simp [roundsFrom, ih, hsame]

theorem rounds_append (h later : List Deed) :
    rounds (h ++ later) = rounds h ++ roundsFrom (announced h).length later := by
  rw [rounds, roundsFrom_append, Nat.zero_add]
  rfl

theorem map_snd_roundsFrom (generation : Nat) (h : List Deed) :
    (roundsFrom generation h).map Prod.snd = begun h := by
  induction h generalizing generation with
  | nil => rfl
  | cons deed h ih =>
    cases deed with
    | announced c => exact ih _
    | did e =>
      cases e with
      | began source => exact congrArg (source :: ·) (ih generation)
      | _ => exact ih generation

theorem generations_append_left {h : List Deed} {entry : Channel × Nat}
    (hentry : entry ∈ generations h) (later : List Deed) : entry ∈ generations (h ++ later) := by
  rw [generations, announced_append, List.zipIdx_append]
  exact List.mem_append_left _ hentry

theorem mem_generations_of_getLast? {newest : Channel}
    (hnewest : (announced h).getLast? = some newest) :
    (newest, (announced h).length) ∈ generations h := by
  obtain ⟨earlier, hearlier⟩ := List.getLast?_eq_some_iff.mp hnewest
  rw [generations, hearlier, List.zipIdx_append]
  refine List.mem_append_right _ ?_
  simp [Nat.add_comm]

/-- **Rounds are held for later and later generations.** -/
theorem increasing_rounds (orderly : Throughout Orderly h) :
    (rounds h).Pairwise fun round later => round.1 < later.1 := by
  induction h using List.reverseRecOn with
  | nil => exact .nil
  | append_singleton h deed ih =>
    obtain ⟨hbefore, hdeed⟩ := throughout_concat.mp orderly
    rw [rounds_append]
    refine List.pairwise_append.mpr ⟨ih hbefore, ?_, fun round hround later hlater => ?_⟩
    · cases deed with
      | announced c => exact .nil
      | did e => cases e <;> simp [roundsFrom]
    · cases deed with
      | announced c => simp [roundsFrom] at hlater
      | did e =>
        cases e with
        | began source =>
          obtain rfl := List.mem_singleton.mp hlater
          exact hdeed.2.2 round hround
        | _ => simp [roundsFrom] at hlater

/-- **A round spares the source of the channel of its generation.** -/
theorem sourced_rounds (orderly : Throughout Orderly h) :
    ∀ round ∈ rounds h, ∃ c, (c, round.1) ∈ generations h ∧ c.source = some round.2 := by
  induction h using List.reverseRecOn with
  | nil => exact fun _ hround => absurd hround List.not_mem_nil
  | append_singleton h deed ih =>
    obtain ⟨hbefore, hdeed⟩ := throughout_concat.mp orderly
    intro round hround
    rw [rounds_append] at hround
    rcases List.mem_append.mp hround with hround | hround
    · obtain ⟨c, hc, hsource⟩ := ih hbefore round hround
      exact ⟨c, generations_append_left hc _, hsource⟩
    · cases deed with
      | announced c => simp [roundsFrom] at hround
      | did e =>
        cases e with
        | began source =>
          obtain rfl := List.mem_singleton.mp hround
          obtain ⟨-, ⟨newest, hnewest, hsource⟩, -⟩ := hdeed
          exact ⟨newest, generations_append_left (mem_generations_of_getLast? hnewest) _, hsource⟩
        | _ => simp [roundsFrom] at hround

/-- Rounds spare different sources if the announced channels have different ones, as far as `f`
tells. -/
theorem nodup_map_rounds {β : Type} (f : Source → β) (orderly : Throughout Orderly h)
    (hdistinct : ((generations h).filterMap fun a => a.1.source.map f).Nodup) :
    ((rounds h).map fun round => f round.2).Nodup := by
  have hsourced := sourced_rounds orderly
  have : Std.Symm fun a a' : Channel × Nat => ∀ b, a.1.source.map f = some b →
      ∀ b', a'.1.source.map f = some b' → b ≠ b' :=
    ⟨fun _ _ hne b hb b' hb' => (hne b' hb' b hb).symm⟩
  refine List.pairwise_map.mpr ((increasing_rounds orderly).imp_of_mem ?_)
  intro round later hround hlater hlt
  obtain ⟨c, hc, hsource⟩ := hsourced round hround
  obtain ⟨c', hc', hsource'⟩ := hsourced later hlater
  have hne : (c, round.1) ≠ (c', later.1) := fun h => Nat.ne_of_lt hlt (congrArg Prod.snd h)
  exact (List.pairwise_filterMap.mp hdistinct).forall hc hc' hne _ (by simp [hsource]) _
    (by simp [hsource'])

theorem underWay?_concat (h : List Deed) (deed : Deed) :
    underWay? (h ++ [deed]) =
      match deed with
      | .did (.began source) => some source
      | .did (.evicted _ _) | .did (.failed _ _) => none
      | _ => underWay? h := by
  rw [underWay?, List.foldl_append]
  rfl

/-- **Rounds are held one at a time**: all that began have ended, but for the one under way. -/
theorem begun_eq (orderly : Throughout Orderly h) :
    begun h = ended h ++ (underWay? h).toList := by
  induction h using List.reverseRecOn with
  | nil => rfl
  | append_singleton h deed ih =>
    obtain ⟨hbefore, hdeed⟩ := throughout_concat.mp orderly
    have ih := ih hbefore
    rw [underWay?_concat]
    simp only [begun, ended, List.filterMap_append] at ih ⊢
    rw [ih]
    cases deed with
    | announced c => simp
    | did e =>
      cases e with
      | began source =>
        obtain ⟨hnone, -⟩ := hdeed
        simp [hnone]
      | evicted count source | failed reason source =>
        have hround : underWay? h = some source := hdeed
        simp [hround]
      | lagged | taken | sourceless => simp

end Histories

/-! ### The evictor pursues the announcements -/

/-- The source that the evictor spares in the round that it waits for. -/
def round? (e : Evictor) : Option Source :=
  match e.wait with
  | .evicting source => some source
  | _ => none

/-- Where the evictor stands agrees with the history. -/
structure Pursues (h : List Deed) (w : Situation) : Prop where
  capacity_pos : 0 < w.channels.capacity
  announced_eq : w.channels.announced = announced h
  cursor_le : w.evictor.cursor ≤ (announced h).length
  consumed_eq : consumed h = w.evictor.cursor
  underWay_eq : underWay? h = w.evictor.round?
  orderly : Throughout Orderly h
  /-- Rounds were held only for announcements that are behind the evictor. -/
  rounds_le : ∀ round ∈ rounds h, round.1 ≤ w.evictor.cursor
  /-- If all announcements are behind the evictor, the newest channel has had its round. -/
  newest : w.evictor.cursor = (announced h).length → ∀ c source,
    (announced h).getLast? = some c → c.source = some source →
      ((announced h).length, source) ∈ rounds h

/-- However a round ends, the evictor then waits for an announcement, and has consumed none. -/
theorem answer_evicting {e : Evictor} {source : Source} (hwait : e.wait = .evicting source)
    (outcome : Except Failure Nat) :
    (e.answer outcome).1.wait = .listening ∧ consumed ((e.answer outcome).2.map .did) = 0 := by
  cases outcome <;> simp [answer, hwait, consumed]

section Pursues

variable {h : List Deed} {w : Situation}

theorem Pursues.tail_eq (pursues : Pursues h w) : w.channels.tail = (announced h).length := by
  rw [Ring.tail, pursues.announced_eq]

@[simp] theorem announced_map_did (events : List Event) : announced (events.map .did) = [] := by
  rw [announced, List.filterMap_map]
  exact List.filterMap_eq_nil_iff.mpr fun _ _ => rfl

theorem Pursues.announce (pursues : Pursues h w) (c : Channel) :
    Pursues (h ++ [.announced c]) { w with channels := w.channels.announce c } := by
  have hmore : announced (h ++ [.announced c]) = announced h ++ [c] := announced_append h _
  have hrounds : rounds (h ++ [.announced c]) = rounds h := by
    rw [rounds_append]
    exact List.append_nil _
  have hcursor := pursues.cursor_le
  constructor
  case capacity_pos => exact pursues.capacity_pos
  case announced_eq =>
    rw [hmore, ← pursues.announced_eq]
    rfl
  case cursor_le =>
    rw [hmore, List.length_append]
    exact Nat.le_add_right_of_le hcursor
  case consumed_eq => rw [consumed_append, pursues.consumed_eq]; rfl
  case underWay_eq => rw [underWay?_concat, pursues.underWay_eq]
  case orderly => exact throughout_concat.mpr ⟨pursues.orderly, trivial⟩
  case rounds_le => rw [hrounds]; exact pursues.rounds_le
  case newest =>
    intro hend
    rw [hmore, List.length_append, List.length_singleton] at hend
    dsimp only at hend
    omega

theorem Pursues.aside (pursues : Pursues h w) {events : List Event} {e : Evictor}
    (hnone : ∀ generation, roundsFrom generation (events.map .did) = [])
    (hunderWay : underWay? (h ++ events.map .did) = e.round?)
    (horderly : Throughout (fun before => Orderly (h ++ before)) (events.map .did))
    (hconsumed : w.evictor.cursor + consumed (events.map .did) = e.cursor)
    (hcursor : e.cursor ≤ (announced h).length)
    (hnewest : e.cursor = (announced h).length → ∀ c source,
      (announced h).getLast? = some c → c.source = some source →
        ((announced h).length, source) ∈ rounds h) :
    Pursues (h ++ events.map .did) { w with evictor := e } := by
  have hsame : announced (h ++ events.map .did) = announced h := by simp
  have hrounds : rounds (h ++ events.map .did) = rounds h := by
    rw [rounds_append, hnone, List.append_nil]
  constructor
  case capacity_pos => exact pursues.capacity_pos
  case announced_eq => rw [hsame, pursues.announced_eq]
  case cursor_le => rwa [hsame]
  case consumed_eq => rw [consumed_append, pursues.consumed_eq, hconsumed]
  case underWay_eq => exact hunderWay
  case orderly => exact throughout_append.mpr ⟨pursues.orderly, horderly⟩
  case rounds_le =>
    rw [hrounds, ← hconsumed]
    exact fun round hround => Nat.le_add_right_of_le (pursues.rounds_le round hround)
  case newest =>
    rw [hsame, hrounds]
    exact hnewest

/-- A round begins for the newest channel, which has had none yet. -/
theorem Pursues.begin (pursues : Pursues h w) {newest : Channel} {source : Source}
    (hwait : w.evictor.wait = .listening) (hcursor : w.evictor.cursor < w.channels.tail)
    (hnewest : w.channels.announced.getLast? = some newest)
    (hsource : newest.source = some source) :
    Pursues
      (h ++ [.did (.taken newest (w.channels.tail - (w.evictor.cursor + 1))), .did (.began source)])
      { w with evictor := { cursor := w.channels.tail, wait := .evicting source } } := by
  have htail := pursues.tail_eq
  rw [pursues.announced_eq] at hnewest
  generalize hskipped : w.channels.tail - (w.evictor.cursor + 1) = skipped
  have hsame : announced (h ++ [.did (.taken newest skipped), .did (.began source)]) =
      announced h := by
    rw [announced_append]
    exact List.append_nil _
  have hrounds : rounds (h ++ [.did (.taken newest skipped), .did (.began source)]) =
      rounds h ++ [((announced h).length, source)] := rounds_append h _
  have hbehind : ∀ round ∈ rounds h, round.1 < (announced h).length := fun round hround =>
    htail ▸ Nat.lt_of_le_of_lt (pursues.rounds_le round hround) hcursor
  constructor
  case capacity_pos => exact pursues.capacity_pos
  case announced_eq => rw [hsame, pursues.announced_eq]
  case cursor_le => exact Nat.le_of_eq (by rw [hsame, htail])
  case consumed_eq =>
    rw [consumed_append, pursues.consumed_eq]
    simp only [consumed]
    omega
  case underWay_eq =>
    rw [List.append_cons, underWay?_concat]
    rfl
  case orderly =>
    have taken : Throughout Orderly (h ++ [.did (.taken newest skipped)]) :=
      throughout_concat.mpr ⟨pursues.orderly, trivial⟩
    rw [List.append_cons]
    refine throughout_concat.mpr ⟨taken, ?_, ⟨newest, ?_, hsource⟩, ?_⟩
    · rw [underWay?_concat, pursues.underWay_eq, round?, hwait]
    · simpa [announced] using hnewest
    · simpa [rounds_append, roundsFrom, announced] using hbehind
  case rounds_le =>
    rw [hrounds]
    intro round hround
    rcases List.mem_append.mp hround with hround | hround
    · exact Nat.le_of_lt (htail ▸ hbehind round hround)
    · obtain rfl := List.mem_singleton.mp hround
      exact Nat.le_of_eq htail.symm
  case newest =>
    rw [hsame, hrounds, hnewest]
    rintro - c source' hc hsource'
    obtain rfl := Option.some.inj hc
    obtain rfl := Option.some.inj (hsource.symm.trans hsource')
    exact List.mem_append_right _ List.mem_cons_self

/-- **The evictor pursues the announcements passage by passage.** -/
theorem Pursues.passage (pursues : Pursues h w) {events : List Event} {e : Evictor}
    (passage : Passage w events e) : Pursues (h ++ events.map .did) { w with evictor := e } := by
  have hunderWay := pursues.underWay_eq
  have hcursor := pursues.cursor_le
  have htail := pursues.tail_eq
  cases passage with
  | stay => simpa using pursues
  | finish hwait =>
    have hidle : underWay? (h ++ []) = none := by
      rw [List.append_nil, hunderWay, round?, hwait]
    exact pursues.aside (fun _ => rfl) hidle (throughout_nil _) rfl hcursor pursues.newest
  | lag hwait hbehind =>
    have hidle : underWay? h = none := by rw [hunderWay, round?, hwait]
    have hcapacity := pursues.capacity_pos
    refine pursues.aside (fun _ => rfl) ?_ ?_ ?_ ?_ fun hend => ?_
    · rw [List.map_singleton, underWay?_concat, hidle, round?, hwait]
    · exact throughout_cons.mpr ⟨trivial, throughout_nil _⟩
    · simp only [List.map_singleton, consumed]
      omega
    · rw [← htail]
      exact Nat.sub_le _ _
    · -- The newest announcement is still to come.
      dsimp only at hend
      omega
  | @skip newest hwait hbehind hnewest hsource =>
    have hidle : underWay? h = none := by rw [hunderWay, round?, hwait]
    refine pursues.aside (fun _ => rfl) ?_ ?_ ?_ (Nat.le_of_eq htail) fun _ c source hc hround => ?_
    · rw [List.map_cons, List.map_singleton, List.append_cons, underWay?_concat, underWay?_concat,
        hidle]
      rfl
    · exact throughout_cons.mpr ⟨trivial, throughout_cons.mpr ⟨trivial, throughout_nil _⟩⟩
    · simp only [List.map_cons, List.map_nil, consumed]
      omega
    · rw [← pursues.announced_eq, hnewest] at hc
      obtain rfl := Option.some.inj hc
      rw [hsource] at hround
      cases hround
  | begin hwait hbehind hnewest hsource => exact pursues.begin hwait hbehind hnewest hsource
  | evicted _ hwait | failed _ hwait =>
    refine pursues.aside (fun _ => rfl) ?_ ?_ rfl hcursor pursues.newest
    · rw [List.map_singleton, underWay?_concat]
      rfl
    · refine throughout_cons.mpr ⟨?_, throughout_nil _⟩
      rw [List.append_nil, Orderly, hunderWay, round?, hwait]

/-- **Every evictor pursues the announcements**, from the first on. -/
theorem Course.pursues {capacity : Nat} (hcapacity : 0 < capacity)
    (course : Course { capacity } h w) : Pursues h w := by
  induction course with
  | start =>
    exact ⟨hcapacity, rfl, Nat.le_refl _, rfl, rfl, throughout_nil _,
      fun _ hround => absurd hround List.not_mem_nil, fun _ _ _ hnone => by cases hnone⟩
  | step _ last ih =>
    cases last with
    | announce c => exact ih.announce c
    | notice hnotice => exact ih.passage (passage_of_notice? ih.capacity_pos hnotice)
    | answer outcome => exact ih.passage (passage_answer _ outcome)

/-- **An evictor that has nothing to do is at the end of the ring**, and has held exactly one round
for the newest channel, if this has a source. -/
theorem Pursues.newest_evicted (pursues : Pursues h w) {stopped announcing : Bool}
    (hwait : w.evictor.wait = .listening)
    (hidle : w.evictor.notice? stopped w.channels announcing = none) :
    consumed h = (announced h).length ∧ ∀ c source, (announced h).getLast? = some c →
      c.source = some source → ((announced h).length, source) ∈ rounds h ∧
        ((rounds h).map Prod.fst).count (announced h).length = 1 := by
  have hend : w.evictor.cursor = (announced h).length := by
    refine Nat.le_antisymm pursues.cursor_le ?_
    rw [← pursues.tail_eq, ← Ring.receive?_eq_none]
    cases hreceive : w.channels.receive? w.evictor.cursor with
    | none => rfl
    | some received =>
      obtain ⟨receipt, cursor⟩ := received
      cases receipt <;> cases stopped <;> simp [notice?, hwait, hreceive] at hidle
  refine ⟨pursues.consumed_eq.trans hend, fun c source hc hsource => ?_⟩
  have hround := pursues.newest hend c source hc hsource
  have hnodup : ((rounds h).map Prod.fst).Nodup :=
    List.pairwise_map.mpr ((increasing_rounds pursues.orderly).imp Nat.ne_of_lt)
  exact ⟨hround, List.count_eq_one_of_mem hnodup (List.mem_map_of_mem hround)⟩

end Pursues

end InterestMux.Evictor
