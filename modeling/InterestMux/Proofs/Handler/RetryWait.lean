import InterestMux.Proofs.Handler.Engine
import InterestMux.Proofs.Handler.Run

/-!
# The wait between attempts

Any span of time can be asked for as the wait between two attempts to connect. The settings keep
its whole milliseconds in a word of 64 bits, and from that the retry policy of the loop has its
delay. A span of fewer than `2 ^ 64` milliseconds loses less than a millisecond on the way. The
count of a longer one wraps around, and the loop rests for a far shorter time than was asked for.

## Main definitions

* `Span.IsWithinMilli` : a span is less than a millisecond short of another one.
* `Loop.Event.rest?` : the rest between two attempts that an event tells of.
* `Handler.RestsFor` : the loop of a handler rests for the same span after every failure.

## Main results

* `Handler.Run.restsFor` : the loop rests as long as the settings say.
* `Handler.Run.rests_of_withRetryWait` : the wait that was asked for is the wait in effect exactly
  if its milliseconds fit into a word.
-/

namespace InterestMux

namespace Span

/-- A span is at most another one, and less than a millisecond short of it. -/
def IsWithinMilli (delay wait : Span) : Prop :=
  delay.nanos ≤ wait.nanos ∧ wait.nanos - delay.nanos < perMilli

instance (delay wait : Span) : Decidable (delay.IsWithinMilli wait) :=
  inferInstanceAs (Decidable (_ ∧ _))

/-- Only one count of milliseconds comes that close to a span: that of its whole milliseconds. -/
theorem isWithinMilli_ofMillis {millis : Nat} {wait : Span} :
    (ofMillis millis).IsWithinMilli wait ↔ millis = wait.wholeMillis := by
  simp only [IsWithinMilli, ofMillis, wholeMillis, perMilli]
  omega

theorem wholeMillis_le {wait longer : Span} (h : wait.nanos ≤ longer.nanos) :
    wait.wholeMillis ≤ longer.wholeMillis :=
  Nat.div_le_div_right h

end Span

theorem Settings.retryWait_withRetryWait (settings : Settings) (wait : Span) :
    (settings.withRetryWait wait).retryWait = .ofMillis (wait.wholeMillis % UInt64.size) :=
  rfl

/-! ### The rests of a loop -/

namespace Loop

variable {T : Type} {s : Sight T} {l l' : Loop T} {deeds : List (Record T)}

/-- The rest between two attempts that an event tells of. -/
def Event.rest? : Event T → Option Span
  | .scheduled _ delay _ | .rested delay | .published (.backoff _ delay _) => some delay
  | _ => none

theorem Aftermath.rests {reason : Failure} (h : Aftermath s l reason deeds l') :
    ∀ e ∈ deeds.filterMap Record.event?, ∀ rest, e.rest? = some rest → rest = l.policy.delay := by
  cases h <;> simp [Event.rest?, Record.event?]

/-- **Every rest that a loop tells of is the delay of its policy.** -/
theorem Passage.rests (h : Passage s l deeds l') :
    ∀ e ∈ deeds.filterMap Record.event?, ∀ rest, e.rest? = some rest → rest = l.policy.delay := by
  cases h with
  | refuse _ hafter | releaseFailed _ hafter =>
    simpa [Event.rest?, Record.event?] using hafter.rests
  | _ => simp [Event.rest?, Record.event?, or_imp, forall_and]

end Loop

/-! ### The rests of a handler -/

namespace Handler

variable {α : Type} {settings : Settings} {metrics : Option Metrics} {delay : Span}

/-- The loop of a connection rests for the same span before every further attempt: its policy says
so, and every rest that it has told of or begun is that long. -/
structure RestsFor (delay : Span) (events : List Event) (c : Connection Interest) : Prop where
  policy : ∃ l, c.loop = some l ∧ l.policy.delay = delay
  rests : ∀ e, .connection e ∈ events → ∀ rest, e.rest? = some rest → rest = delay

theorem RestsFor.unique {delay' : Span} {events : List Event} {c : Connection Interest}
    (h : RestsFor delay events c) (h' : RestsFor delay' events c) : delay = delay' := by
  obtain ⟨l, hl, rfl⟩ := h.policy
  obtain ⟨l', hl', rfl⟩ := h'.policy
  rw [Option.some.inj (hl.symm.trans hl')]

/-- Nothing that happens to an engine changes for how long its loop rests. -/
theorem RestsFor.step {events deeds : List Event} {e e' : Engine}
    (h : RestsFor delay events e.connection) (step : Engine.Step e deeds e') :
    RestsFor delay (events ++ deeds) e'.connection := by
  have quiet {c : Connection Interest} (hloop : c.loop = e.connection.loop)
      (hdeeds : ∀ e, .connection e ∉ deeds) : RestsFor delay (events ++ deeds) c :=
    ⟨hloop ▸ h.policy, fun e he => h.rests e ((List.mem_append.mp he).resolve_right (hdeeds e))⟩
  cases step with
  | rest | finish | drop | notice | answer => exact quiet rfl (by simp)
  | close => exact quiet (Connection.loop_close _) (by simp)
  | @turn _ l l' records hloop hstep =>
    obtain ⟨_, hl, hdelay⟩ := h.policy
    obtain rfl := Option.some.inj (hl.symm.trans hloop)
    constructor
    case policy =>
      exact ⟨l', Connection.foldl_record_loop _ _, hstep.passage.policy_eq ▸ hdelay⟩
    case rests =>
      intro e he rest hrest
      rcases List.mem_append.mp he with he | he
      · exact h.rests e he rest hrest
      · obtain ⟨e', he', hsame⟩ := List.mem_map.mp he
        obtain rfl := Event.connection.inj hsame
        exact hdelay ▸ hstep.passage.rests e' he' rest hrest

/-- **The loop of a handler rests as long as the settings say**, before every further attempt of
every run. -/
theorem Run.restsFor {turns : List (Turn α)} {h : Handler α} (run : Run settings metrics turns h) :
    RestsFor settings.retryWait (eventsOf turns) h.connection := by
  have start : RestsFor settings.retryWait [] (Engine.start settings).connection :=
    ⟨⟨_, rfl, rfl⟩, fun _ he => nomatch he⟩
  have rests : RestsFor settings.retryWait ((eventsOf turns).filter Event.isEngine)
      h.engine.connection := by
    have engine := run.course.engine
    generalize h.engine = e, (eventsOf turns).filter Event.isEngine = deeds at engine
    induction engine with
    | start => exact start
    | step _ last ih => exact ih.step last
  exact ⟨rests.policy, fun e he => rests.rests e (List.mem_filter.mpr ⟨he, rfl⟩)⟩

/-- **The wait that was asked for is in effect exactly if its milliseconds fit into a word.** A
handler that is built with a wait between attempts rests for one span in every run of it. The span
is at most the wait and less than a millisecond short of it if the wait has fewer than `2 ^ 64`
milliseconds, and only then: it has the milliseconds of the wait modulo `2 ^ 64`. So a longer wait
makes no shorter rest, as long as the longer one fits. -/
theorem Run.rests_of_withRetryWait {wait : Span} {turns : List (Turn α)} {h : Handler α}
    (run : Run (settings.withRetryWait wait) metrics turns h) :
    ∃ delay, RestsFor delay (eventsOf turns) h.connection ∧
      delay = .ofMillis (wait.wholeMillis % UInt64.size) ∧
      (delay.IsWithinMilli wait ↔ wait.wholeMillis < UInt64.size) ∧
      ∀ (others : Settings) (instruments : Option Metrics) (longer rest : Span)
          (moves : List (Turn α)) (h' : Handler α),
        Run (others.withRetryWait longer) instruments moves h' →
        RestsFor rest (eventsOf moves) h'.connection →
        wait.nanos ≤ longer.nanos → longer.wholeMillis < UInt64.size →
        delay.nanos ≤ rest.nanos := by
  refine ⟨_, run.restsFor, rfl, ?_, ?_⟩
  · rw [Settings.retryWait_withRetryWait, Span.isWithinMilli_ofMillis]
    exact Nat.mod_eq_iff_lt (by decide)
  · intro others instruments longer rest moves h' run' hrest hlonger hfits
    have hmillis := Span.wholeMillis_le hlonger
    rw [hrest.unique run'.restsFor, Settings.retryWait_withRetryWait,
      Settings.retryWait_withRetryWait, Nat.mod_eq_of_lt hfits,
      Nat.mod_eq_of_lt (Nat.lt_of_le_of_lt hmillis hfits)]
    exact Nat.mul_le_mul_right _ hmillis

/-- A wait of a millisecond and a half: after a failure the loop rests for one millisecond. -/
theorem rests_one_milli :
    ∃ (turns : List (Turn Unit)) (h : Handler Unit),
      Run (({} : Settings).withRetryWait ⟨1500000⟩) none turns h ∧
      (eventsOf turns).getLast? = some (.connection (.rested (.ofMillis 1))) ∧
      ∃ delay, RestsFor delay (eventsOf turns) h.connection ∧ delay.IsWithinMilli ⟨1500000⟩ := by
  have built : Run (({} : Settings).withRetryWait ⟨1500000⟩) none [] (_ : Handler Unit) :=
    ⟨_, rfl, .start⟩
  have run := (built.play (.lookLoop none) rfl).play (.hearLoop (.refused (.other "down"))) rfl
  obtain ⟨delay, hrests, -, hexact, -⟩ := run.rests_of_withRetryWait
  exact ⟨_, _, run, rfl, delay, hrests, hexact.mpr (by decide)⟩

/-- A wait of `2 ^ 64 + 100` milliseconds, far within what a span of seconds in a 64-bit word can
be: the loop rests for 100 milliseconds only, and for a longer time if it is to wait for a
second. -/
theorem rests_wrapped :
    (Span.ofMillis 18446744073709551716).seconds < UInt64.size ∧
    ∃ (turns moves : List (Turn Unit)) (h h' : Handler Unit) (delay rest : Span),
      Run (({} : Settings).withRetryWait (.ofMillis 18446744073709551716)) none turns h ∧
      (eventsOf turns).getLast? = some (.connection (.rested delay)) ∧
      RestsFor delay (eventsOf turns) h.connection ∧ delay = .ofMillis 100 ∧
      ¬ delay.IsWithinMilli (.ofMillis 18446744073709551716) ∧
      Run (({} : Settings).withRetryWait (.ofParts 1 0)) none moves h' ∧
      RestsFor rest (eventsOf moves) h'.connection ∧
      (Span.ofParts 1 0).nanos ≤ (Span.ofMillis 18446744073709551716).nanos ∧
      ¬ rest.nanos ≤ delay.nanos := by
  have long : Run (({} : Settings).withRetryWait (.ofMillis 18446744073709551716)) none []
      (_ : Handler Unit) := ⟨_, rfl, .start⟩
  have short : Run (({} : Settings).withRetryWait (.ofParts 1 0)) none [] (_ : Handler Unit) :=
    ⟨_, rfl, .start⟩
  have run := (long.play (.lookLoop none) rfl).play (.hearLoop (.refused (.other "down"))) rfl
  exact ⟨by decide, _, _, _, _, .ofMillis 100, .ofParts 1 0, run, rfl, run.restsFor, rfl,
    by decide, short, short.restsFor, by decide, by decide⟩

end Handler

end InterestMux
