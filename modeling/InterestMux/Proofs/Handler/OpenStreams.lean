import InterestMux.Proofs.Handler.Agreement
import InterestMux.Proofs.Handler.Run
import InterestMux.Proofs.Tracker.Observers

/-!
# Open streams

What the callers of a handler were given and have not dropped are its open streams, as the moves of
a run tell. They are the streams that the handler holds, and an idle loop has made the remote side
take the union of their interests. Likewise the unions that were published tell the current one.

## Main definitions

* `Stream.numbered` : the streams that are held, with their numbers.
* `Handler.lastUnion` : the union that was published last.
* `Handler.openStreams` : the streams that callers were given and have not dropped.

## Main results

* `Handler.sparesStreams_of_play?` : only callers who ask for a stream or drop one change what is
  registered.
* `Handler.Run.openStreams_eq` : the open streams of a run are those that the handler holds.
* `Handler.Run.lastUnion_eq` : the union that was published last is the current one.
* `Handler.Run.agrees_with_openStreams` : the remote interest agrees with the open streams.
-/

namespace InterestMux

/-! ### Numbered streams -/

namespace Stream

variable {α : Type} {s s' : Stream α} {k : Nat}

/-- The streams that are held, each with its number and its interest. -/
def numbered (first : Nat) : List (Stream α) → List (Nat × Interest)
  | [] => []
  | s :: streams =>
    (if s.held then [(first, s.interest)] else []) ++ numbered (first + 1) streams

theorem map_snd_numbered (first : Nat) (streams : List (Stream α)) :
    (numbered first streams).map (·.2) = heldInterests streams := by
  induction streams generalizing first with
  | nil => rfl
  | cons s streams ih =>
    rw [numbered, heldInterests_cons, List.map_append, ih]
    cases s.held <;> rfl

theorem numbered_concat (first : Nat) (streams : List (Stream α)) (hheld : s.held = true) :
    numbered first (streams ++ [s]) =
      numbered first streams ++ [(first + streams.length, s.interest)] := by
  induction streams generalizing first with
  | nil => simp [numbered, hheld]
  | cons s₀ streams ih =>
    rw [List.cons_append, numbered, numbered, ih, List.append_assoc, List.length_cons]
    simp only [Nat.add_assoc, Nat.add_comm 1]

theorem mem_numbered {first n : Nat} {i : Interest} {streams : List (Stream α)} :
    (n, i) ∈ numbered first streams ↔
      ∃ k s, streams[k]? = some s ∧ n = first + k ∧ s.held = true ∧ s.interest = i := by
  induction streams generalizing first with
  | nil => simp [numbered]
  | cons s₀ streams ih =>
    rw [numbered, List.mem_append, ih]
    constructor
    · rintro (hfirst | ⟨k, s, hk, rfl, hheld, rfl⟩)
      · obtain ⟨hheld, hfirst⟩ := List.mem_ite_nil_right.mp hfirst
        obtain ⟨rfl, rfl⟩ := Prod.mk.inj (List.mem_singleton.mp hfirst)
        exact ⟨0, s₀, rfl, rfl, hheld, rfl⟩
      · exact ⟨k + 1, s, hk, by omega, hheld, rfl⟩
    · rintro ⟨k, s, hk, rfl, hheld, rfl⟩
      cases k with
      | zero =>
        obtain rfl : s₀ = s := Option.some.inj hk
        exact .inl (by simp [hheld])
      | succ k => exact .inr ⟨k, s, hk, by omega, hheld, rfl⟩

theorem nodup_numbered (first : Nat) (streams : List (Stream α)) :
    ((numbered first streams).map (·.1)).Nodup := by
  induction streams generalizing first with
  | nil => exact .nil
  | cons s streams ih =>
    rw [numbered]
    cases s.held with
    | false => exact ih (first + 1)
    | true =>
      refine List.nodup_cons.mpr ⟨fun hmem => ?_, ih (first + 1)⟩
      obtain ⟨⟨n, i⟩, hn, hfirst⟩ := List.mem_map.mp hmem
      obtain ⟨k, -, -, rfl, -⟩ := mem_numbered.mp hn
      simp only at hfirst
      omega

theorem numbered_set {streams : List (Stream α)} (first : Nat) (hk : streams[k]? = some s)
    (hsame : SameHold s s') : numbered first (streams.set k s') = numbered first streams := by
  induction streams generalizing k first with
  | nil => cases hk
  | cons s₀ streams ih =>
    cases k with
    | zero =>
      obtain rfl : s₀ = s := Option.some.inj hk
      rw [List.set_cons_zero, numbered, numbered, hsame.1, hsame.2]
    | succ k => rw [List.set_cons_succ, numbered, numbered, ih (first + 1) hk]

theorem numbered_set_drop {streams : List (Stream α)} (first : Nat) (hk : streams[k]? = some s) :
    numbered first (streams.set k s.drop) =
      (numbered first streams).filter (·.1 ≠ first + k) := by
  induction streams generalizing k first with
  | nil => cases hk
  | cons s₀ streams ih =>
    cases k with
    | zero =>
      have hothers : (numbered (first + 1) streams).filter (·.1 ≠ first + 0) =
          numbered (first + 1) streams := by
        refine List.filter_eq_self.mpr fun ⟨n, i⟩ hn => ?_
        obtain ⟨k, -, -, rfl, -⟩ := mem_numbered.mp hn
        exact decide_eq_true (by omega)
      rw [List.set_cons_zero, numbered, numbered, List.filter_append, hothers]
      cases s₀.held <;> simp [drop]
    | succ k =>
      rw [List.set_cons_succ, numbered, numbered, List.filter_append, ih (first + 1) hk]
      congr 1
      · cases s₀.held <;> simp
      · simp only [Nat.add_assoc, Nat.add_comm 1]

end Stream

namespace Handler

variable {α : Type} {h h' : Handler α} {events : List Event}

/-! ### Published unions -/

/-- The union that an event publishes, if any. -/
def Event.union? : Event → Option Interest
  | .united union => some union
  | _ => none

/-- The union that was published last. At first it is empty. -/
def lastUnion (events : List Event) : Interest :=
  (events.filterMap Event.union?).getLast?.getD .empty

theorem lastUnion_append {later : List Event} (hsilent : later.filterMap Event.union? = []) :
    lastUnion (events ++ later) = lastUnion events := by
  rw [lastUnion, List.filterMap_append, hsilent, List.append_nil, lastUnion]

/-- If the tracker publishes whenever its union becomes another one, the last union is its own. -/
theorem lastUnion_unionEvents {t t' : Tracker} (hlast : lastUnion events = t.union)
    (hpublished : t'.published =
      if t'.union = t.union then t.published else t.published.publish t'.union) :
    lastUnion (events ++ unionEvents t t') = t'.union := by
  by_cases hsame : t'.union = t.union
  · rw [if_pos hsame] at hpublished
    have hnone : unionEvents t t' = [] := by
      rw [unionEvents, Tracker.announced?, hpublished, if_pos rfl]
      rfl
    rw [hnone, List.append_nil, hlast, hsame]
  · rw [if_neg hsame] at hpublished
    have hnew : unionEvents t t' = [.united t'.union] := by
      rw [unionEvents, Tracker.announced?, hpublished, Watch.publish_version,
        if_neg (Nat.ne_of_lt (Nat.lt_succ_self _))]
      rfl
    rw [hnew, lastUnion, List.filterMap_append]
    simp [Event.union?]

/-! ### Open streams -/

/-- The streams that are open after a turn, given those that were open before it. -/
def Turn.leavesOpen (t : Turn α) (streams : List (Nat × Interest)) : List (Nat × Interest) :=
  match t.move with
  | .subscribe i =>
    match (t.before.subscribe i).2 with
    | .opened k => streams ++ [(k, i)]
    | _ => streams
  | .dropStream k => streams.filter (·.1 ≠ k)
  | _ => streams

/-- The streams that callers were given in a list of turns and have not dropped, each with its
number and the interest that it was asked for. -/
def openStreams (turns : List (Turn α)) : List (Nat × Interest) :=
  turns.foldl (fun streams t => t.leavesOpen streams) []

theorem openStreams_concat (turns : List (Turn α)) (t : Turn α) :
    openStreams (turns ++ [t]) = t.leavesOpen (openStreams turns) :=
  List.foldl_concat ..

/-- A turn in which no stream is asked for leaves open all streams but the one that it drops. -/
theorem Turn.mem_leavesOpen {t : Turn α} {streams : List (Nat × Interest)} {k : Nat} {i : Interest}
    (hmove : ∀ j, t.move ≠ .subscribe j) :
    (k, i) ∈ t.leavesOpen streams ↔ (k, i) ∈ streams ∧ t.move ≠ .dropStream k := by
  obtain ⟨h, move, events⟩ := t
  cases move with
  | subscribe j => exact absurd rfl (hmove j)
  | dropStream j =>
    simp only [leavesOpen, List.mem_filter, decide_eq_true_eq, ne_eq, Move.dropStream.injEq,
      eq_comm (a := k)]
  | _ => simp [leavesOpen]

/-- A turn opens and drops no stream: the tracker stays as it is and publishes nothing, and the same
streams are held. -/
structure SparesStreams (t : Turn α) (h' : Handler α) : Prop where
  tracker_eq : h'.tracker = t.before.tracker
  numbered_eq : Stream.numbered 0 h'.streams = Stream.numbered 0 t.before.streams
  silent : t.events.filterMap Event.union? = []
  open_eq : ∀ streams, t.leavesOpen streams = streams

/-- **Only callers who ask for a stream or drop one change what is registered.** -/
theorem sparesStreams_of_play? {move : Move α} (hplay : h.play? move = some (h', events)) :
    (∃ i, move = .subscribe i) ∨ (∃ k, move = .dropStream k) ∨
      SparesStreams ⟨h, move, events⟩ h' := by
  have hconnection (events : List (Loop.Event Interest)) :
      (events.map Event.connection).filterMap Event.union? = [] := by
    rw [List.filterMap_map]
    exact List.filterMap_eq_nil_iff.mpr fun _ _ => rfl
  have heviction (events : List Evictor.Event) :
      (events.map Event.eviction).filterMap Event.union? = [] := by
    rw [List.filterMap_map]
    exact List.filterMap_eq_nil_iff.mpr fun _ _ => rfl
  cases played_of_play? hplay with
  | @subscribe i => exact .inl ⟨i, rfl⟩
  | @dropStream k => exact .inr (.inl ⟨k, rfl⟩)
  | @dropNothing k => exact .inr (.inl ⟨k, rfl⟩)
  | @poll k s hk =>
    have hsame := Stream.numbered_set 0 hk s.sameHold_poll
    exact .inr (.inr ⟨rfl, hsame, rfl, fun _ => rfl⟩)
  | finishShutdown _ _ _ hcrash =>
    refine .inr (.inr ⟨rfl, rfl, ?_, fun _ => rfl⟩)
    rw [hcrash]
    cases h.connection.isCrashed <;> rfl
  | lookLoop | hearLoop => exact .inr (.inr ⟨rfl, rfl, hconnection _, fun _ => rfl⟩)
  | lookEvictor | hearEvictor => exact .inr (.inr ⟨rfl, rfl, heviction _, fun _ => rfl⟩)
  | @lookFollower result =>
    refine .inr (.inr ⟨rfl, rfl, ?_, fun _ => rfl⟩)
    cases result.2 <;> rfl
  | lookForwarder hk hnotice =>
    have hsame := Stream.numbered_set 0 hk (Stream.sameHold_notice? hnotice)
    exact .inr (.inr ⟨rfl, hsame, rfl, fun _ => rfl⟩)
  | @pull k s next hk =>
    have hsame := Stream.numbered_set 0 hk (s.sameHold_pull next)
    exact .inr (.inr ⟨rfl, hsame, rfl, fun _ => rfl⟩)
  | _ => exact .inr (.inr ⟨rfl, rfl, rfl, fun _ => rfl⟩)

/-! ### Runs -/

section Run

variable {settings : Settings} {metrics : Option Metrics} {turns : List (Turn α)}

theorem Subscribes.numbered_eq {i : Interest} {k : Nat}
    (subscribes : Subscribes h i ((h', events), .opened k)) :
    k = h.streams.length ∧
      Stream.numbered 0 h'.streams = Stream.numbered 0 h.streams ++ [(k, i)] := by
  cases subscribes with
  | opened _ _ hopened =>
    have hstreams := congrArg Handler.streams hopened
    rw [hstreams, Stream.numbered_concat 0 _ rfl, Nat.zero_add]
    exact ⟨rfl, rfl⟩

/-- What was published last before the registry is asked is the union with the new interest, and
after the call it is the current union. -/
theorem Subscribes.lastUnion_eq {i : Interest} {past : List Event} {subscription : Subscription}
    (subscribes : Subscribes h i ((h', events), subscription))
    (hlast : lastUnion past = h.currentInterest) :
    lastUnion (past ++ unionEvents h.tracker (h.tracker.append i)) =
        (h.tracker.append i).union ∧
      lastUnion (past ++ events) = h'.currentInterest := by
  have happend := lastUnion_unionEvents hlast (h.tracker.published_append i)
  refine ⟨happend, ?_⟩
  cases subscribes with
  | opened _ _ hopened =>
    rw [← List.append_assoc, lastUnion_append rfl, happend, currentInterest, hopened]
  | refused => rwa [lastUnion_append rfl]
  | broke _ cause =>
    rw [← List.append_assoc, ← List.append_assoc]
    refine lastUnion_unionEvents ?_ ((h.tracker.append i).published_remove i)
    rwa [lastUnion_append rfl]

theorem numbered_dropStream {k : Nat} (hplay : h.play? (.dropStream k) = some (h', events)) :
    Stream.numbered 0 h'.streams = (Stream.numbered 0 h.streams).filter (·.1 ≠ k) := by
  cases played_of_play? hplay with
  | dropStream hk => simpa using Stream.numbered_set_drop 0 hk
  | dropNothing hk =>
    refine (List.filter_eq_self.mpr fun ⟨n, i⟩ hn => decide_eq_true ?_).symm
    rintro rfl
    obtain ⟨j, s, hs, hj, hheld, -⟩ := Stream.mem_numbered.mp hn
    rw [Nat.zero_add] at hj
    subst hj
    exact hk ⟨s, hs, hheld⟩

/-- **The open streams of a run are those that the handler holds.** -/
theorem Run.openStreams_eq (run : Run settings metrics turns h) :
    openStreams turns = Stream.numbered 0 h.streams := by
  refine run.induction (fun h₀ hbuild => ?_) fun turns h move events h' _ hplay ih => ?_
  · rw [(build_spec hbuild).2.1]
    rfl
  · rw [openStreams_concat, ih]
    rcases sparesStreams_of_play? hplay with ⟨i, rfl⟩ | ⟨k, rfl⟩ | spares
    · have subscribes := subscribes_of_play? hplay
      simp only [Turn.leavesOpen]
      generalize (h.subscribe i).2 = got at subscribes
      cases got with
      | opened k => exact subscribes.numbered_eq.2.symm
      | refused | broke =>
        cases subscribes
        rfl
    · exact (numbered_dropStream hplay).symm
    · rw [spares.open_eq, spares.numbered_eq]

/-- **The union that was published last is the current one.** -/
theorem Run.lastUnion_eq (run : Run settings metrics turns h) :
    lastUnion (eventsOf turns) = h.currentInterest := by
  refine run.induction (fun h₀ hbuild => ?_) fun turns h move events h' _ hplay ih => ?_
  · rw [currentInterest, (build_spec hbuild).1]
    rfl
  · rw [eventsOf_concat]
    rcases sparesStreams_of_play? hplay with ⟨i, rfl⟩ | ⟨k, rfl⟩ | spares
    · exact ((subscribes_of_play? hplay).lastUnion_eq ih).2
    · cases played_of_play? hplay with
      | @dropStream _ s => exact lastUnion_unionEvents ih (h.tracker.published_remove s.interest)
      | dropNothing => rwa [List.append_nil]
    · rw [lastUnion_append spares.silent, ih, currentInterest, currentInterest, spares.tracker_eq]

/-- **The remote interest agrees with the open streams.** In every run, whenever the loop is idle
with a channel and has nothing to do, the channel is the current one, the last interest that it took
is the union that the handler publishes, and this is the normalized union of the interests of
exactly the streams that callers were given and have not dropped. -/
theorem Run.agrees_with_openStreams {l : Loop Interest} {c : Channel} {ended : Option SessionEnd}
    (run : Run settings metrics turns h) (hloop : h.connection.loop = some l)
    (hwait : l.wait = .serving c) (hidle : h.noticeLoop? ended = none) :
    h.currentChannel = some c ∧
      (accepted c (eventsOf turns)).getLast? = some h.currentInterest ∧
      h.currentInterest = Interest.unionAll ((openStreams turns).map (·.2)) := by
  have hopen : (openStreams turns).map (·.2) = h.openInterests := by
    rw [run.openStreams_eq, Stream.map_snd_numbered]
    rfl
  rw [hopen]
  exact run.course.agreement_of_idle hloop hwait hidle

end Run

/-- A stream that is opened during the first replay is not forgotten: once the loop is idle, the
remote side has taken its interest too. -/
theorem agreement_after_late_subscription :
    ∃ (turns : List (Turn Unit)) (h : Handler Unit) (l : Loop Interest),
      Run {} none turns h ∧ h.connection.loop = some l ∧ l.wait = .serving ⟨0, none⟩ ∧
      h.noticeLoop? none = none ∧ openStreams turns = [(0, .application "a"), (1, .all)] ∧
      h.currentInterest = .all ∧ h.currentChannel = some ⟨0, none⟩ ∧
      (accepted ⟨0, none⟩ (eventsOf turns)).getLast? = some h.currentInterest ∧
      h.currentInterest = Interest.unionAll ((openStreams turns).map (·.2)) := by
  have built : Run {} none [] (_ : Handler Unit) := ⟨_, rfl, .start⟩
  have opened := built.play (.subscribe (.application "a")) rfl
  have requested := opened.play (.lookLoop none) rfl
  have obtained := requested.play (.hearLoop (.created ⟨0, none⟩)) rfl
  have second := obtained.play (.subscribe .all) rfl
  have established := second.play (.hearLoop .applied) rfl
  have changing := established.play (.lookLoop none) rfl
  have run := changing.play (.hearLoop .applied) rfl
  refine ⟨_, _, _, run, rfl, rfl, ?idle, rfl, rfl, run.agrees_with_openStreams rfl rfl ?idle⟩
  rfl

end Handler

end InterestMux
