import InterestMux.Proofs.Handler.Eviction
import InterestMux.Proofs.Source.Text
import Mathlib.Data.List.Forall2

/-!
# Lines about rounds

When a round of eviction ends, one line is written, which names the source that the round spared.
Rounds are held one after another, so the lines of a handler can be assigned to the rounds in their
order, and through these to the generations of the connection. Since the text of a source identifies
it, what a line says about the source tells the rounds of different sources apart, whatever their
names look like.

The reason of a failure is free text and may itself hold what looks like the field of a source. A
line that is written out as one text still tells the number of its source, and the rest of it
together with the reason.

## Main definitions

* `Evictor.Reports` : a line reports the end of a round that spared a source.
* `Handler.lines`, `Handler.reports` : the lines about rounds, and the rounds that they are about.
* `Handler.TellsApart` : what the lines tell.

## Main results

* `Evictor.Reports.id_eq_of_text_eq`, `Evictor.Reports.eq_of_text_eq` : what a line tells of the
  source when it is written out as a text.
* `Handler.Course.reports_spec` : each line is about the round in whose place it stands.
* `Handler.Course.tellsApart` : lines tell the generations of a connection apart.
-/

namespace InterestMux

/-! ### Written entries -/

namespace Entry

theorem text_of_two_fields (level : Level) (message : String) (f g : String × String) :
    (⟨level, message, [f, g]⟩ : Entry).text =
      level.text ++ " " ++ message ++ " " ++ (f.1 ++ "=" ++ f.2) ++ " " ++ (g.1 ++ "=" ++ g.2) :=
  rfl

/-- The levels begin with different letters. -/
theorem level_inj {l l' : Level} (h : l.text.toList.head? = l'.text.toList.head?) : l = l' := by
  cases l <;> cases l' <;> revert h <;> decide

theorem head?_text (e : Entry) : e.text.toList.head? = e.level.text.toList.head? := by
  rw [text, String.toList_intercalate, List.map_cons, List.map_cons, List.intercalate_cons_cons]
  cases e.level <;> simp [Level.text]

theorem level_eq_of_text_eq {e e' : Entry} (h : e.text = e'.text) : e.level = e'.level :=
  level_inj (by rw [← e.head?_text, ← e'.head?_text, h])

end Entry

/-! ### A line -/

namespace Evictor

/-- The line reports the end of a round that spared the source. -/
inductive Reports (source : Source) (line : Entry) : Prop
  | evicted {count : Nat} (h : Event.entry? (.evicted count source) = some line)
  | failed {reason : Failure} (h : Event.entry? (.failed reason source) = some line)

namespace Reports

variable {source source' : Source} {line line' : Entry}

theorem lookup_fields (reports : Reports source line) :
    line.fields.lookup "source" = some source.text := by
  cases reports with
  | evicted h | failed h =>
    obtain rfl := Option.some.inj h
    rfl

theorem text_eq (reports : Reports source line) : ∃ front, line.text = front ++ source.text := by
  cases reports with
  | evicted h | failed h =>
    obtain rfl := Option.some.inj h
    rw [Entry.text_of_two_fields]
    exact ⟨_, String.append_assoc.symm⟩

/-- **A written line tells the number of the source**, whatever the reason of a failure says. -/
theorem id_eq_of_text_eq (reports : Reports source line) (reports' : Reports source' line')
    (h : line.text = line'.text) : source.id = source'.id := by
  obtain ⟨front, hfront⟩ := reports.text_eq
  obtain ⟨front', hfront'⟩ := reports'.text_eq
  rw [hfront, hfront'] at h
  exact Source.id_eq_of_append_text h

/-- **A written line tells the source** if the round succeeded, and otherwise together with the
reason. -/
theorem eq_of_text_eq (reports : Reports source line) (reports' : Reports source' line')
    (hend : line.level = .info ∨ line.fields.head? = line'.fields.head?)
    (h : line.text = line'.text) : source = source' := by
  have hlevel := Entry.level_eq_of_text_eq h
  cases reports with
  | @evicted count hline =>
    obtain rfl := Option.some.inj hline
    cases reports' with
    | failed hline' =>
      obtain rfl := Option.some.inj hline'
      cases hlevel
    | @evicted count' hline' =>
      obtain rfl := Option.some.inj hline'
      simp only [Entry.text_of_two_fields, String.append_assoc, String.append_right_inj] at h
      -- The count of entries ends at the first blank.
      obtain ⟨-, hsource⟩ := Numeral.counted_inj (by simpa only [String.append_assoc] using h)
      rw [String.append_right_inj, String.append_right_inj] at hsource
      exact Source.text_inj.mp hsource
  | @failed reason hline =>
    obtain rfl := Option.some.inj hline
    cases reports' with
    | evicted hline' =>
      obtain rfl := Option.some.inj hline'
      cases hlevel
    | @failed reason' hline' =>
      obtain rfl := Option.some.inj hline'
      have hreason : reason.message = reason'.message := by
        rcases hend with hinfo | hfield
        · cases hinfo
        · exact congrArg Prod.snd (Option.some.inj hfield)
      simp only [Entry.text_of_two_fields, hreason, String.append_right_inj] at h
      exact Source.text_inj.mp h

end Reports

end Evictor

namespace Handler

variable {α : Type}

/-! ### The lines of a handler -/

/-- The line about a round, if the event ends one. -/
def Event.line? : Event → Option Entry
  | .eviction (.evicted count source) => Evictor.Event.entry? (.evicted count source)
  | .eviction (.failed reason source) => Evictor.Event.entry? (.failed reason source)
  | _ => none

/-- The lines about rounds, oldest first. -/
def lines (events : List Event) : List Entry :=
  events.filterMap Event.line?

/-- The rounds that have a line, each with its generation and the source that it spares, and with
the line. -/
def reports (events : List Event) : List ((Nat × Source) × Entry) :=
  (Evictor.rounds (pursuit events)).zip (lines events)

/-- Each round that ends leaves a line that reports it. -/
theorem forall₂_reports_lines (events : List Event) :
    List.Forall₂ Evictor.Reports (Evictor.ended (pursuit events)) (lines events) := by
  induction events with
  | nil => exact .nil
  | cons e events ih =>
    cases e with
    | eviction e =>
      cases e with
      | evicted count source => exact .cons (.evicted rfl) ih
      | failed reason source => exact .cons (.failed rfl) ih
      | _ => exact ih
    | connection e => cases e <;> exact ih
    | _ => exact ih

section Course

variable {settings : Settings} {metrics : Option Metrics} {events : List Event} {h : Handler α}

/-- **Each line is about the round in whose place it stands**: the lines belong to the rounds in
their order, from the first on. -/
theorem Course.reports_spec (course : Course settings metrics events h) :
    (reports events).map Prod.fst <+: Evictor.rounds (pursuit events) ∧
      (reports events).map Prod.snd = lines events ∧
      ∀ report ∈ reports events, Evictor.Reports report.1.2 report.2 := by
  have hbegun :
      Evictor.ended (pursuit events) <+: (Evictor.rounds (pursuit events)).map Prod.snd := by
    rw [Evictor.rounds, Evictor.map_snd_roundsFrom, Evictor.begun_eq course.evictsNewest.orderly]
    exact List.prefix_append _ _
  obtain ⟨done, ⟨rest, hrounds⟩, hended⟩ := List.prefix_map_iff.mp hbegun
  have hlines := forall₂_reports_lines events
  rw [hended, List.forall₂_map_left_iff] at hlines
  have hreports : reports events = done.zip (lines events) := by
    rw [reports, ← hrounds, ← List.append_nil (lines events), List.zip_append hlines.length_eq,
      List.zip_nil_right, List.append_nil, List.append_nil]
  rw [hreports]
  refine ⟨?_, List.map_snd_zip (Nat.le_of_eq hlines.length_eq.symm), ?_⟩
  · rw [List.map_fst_zip (Nat.le_of_eq hlines.length_eq)]
    exact ⟨rest, hrounds⟩
  · exact fun report hreport => (List.forall₂_iff_zip.mp hlines).2 hreport

theorem Course.mem_announcements_of_report (course : Course settings metrics events h)
    {report : (Nat × Source) × Entry} (hreport : report ∈ reports events) :
    ∃ c, (c, report.1.1) ∈ announcements events ∧ c.source = some report.1.2 :=
  course.evictsNewest.sourced _ (course.reports_spec.1.subset (List.mem_map_of_mem hreport))

/-- If the announced channels have different sources, as far as `f` tells, and `key` tells as much
about a line, then no two lines have the same key. -/
theorem Course.nodup_lines (course : Course settings metrics events h) {β γ : Type} (f : Source → β)
    (key : Entry → γ)
    (hkey : ∀ source source' line line', Evictor.Reports source line →
      Evictor.Reports source' line' → key line = key line' → f source = f source')
    (hdistinct : ((announcements events).filterMap fun a => a.1.source.map f).Nodup) :
    ((lines events).map key).Nodup := by
  obtain ⟨hrounds, hlines, hreports⟩ := course.reports_spec
  rw [← course.generations_eq] at hdistinct
  have hsources := Evictor.nodup_map_rounds f course.evictsNewest.orderly hdistinct
  have hreported : ((reports events).map fun report => f report.1.2).Nodup := by
    refine hsources.sublist ?_
    have hsublist := hrounds.sublist.map fun round => f round.2
    rwa [List.map_map] at hsublist
  rw [← hlines, List.map_map]
  refine List.pairwise_map.mpr ((List.pairwise_map.mp hreported).imp_of_mem ?_)
  intro report other hreport hother hne hsame
  exact hne (hkey _ _ _ _ (hreports report hreport) (hreports other hother) hsame)

/-- The lines that a handler writes about rounds tell the sources of its channels apart. -/
structure TellsApart (events : List Event) : Prop where
  /-- Two sources are printed alike exactly if they are equal, whatever their names look like. -/
  printed : ∀ s t : Source, s.text = t.text ↔ s = t
  /-- Every line is about a round, in the order of the rounds. -/
  complete : (reports events).map Prod.fst <+: Evictor.rounds (pursuit events) ∧
    (reports events).map Prod.snd = lines events
  /-- A line names the source of the channel whose generation its round was held for. -/
  named : ∀ report ∈ reports events,
    (∃ c, (c, report.1.1) ∈ announcements events ∧ c.source = some report.1.2) ∧
      report.2.fields.lookup "source" = some report.1.2.text
  /-- Lines name their sources alike exactly if the sources are equal. -/
  fields : ∀ report ∈ reports events, ∀ other ∈ reports events,
    report.2.fields.lookup "source" = other.2.fields.lookup "source" ↔ report.1.2 = other.1.2
  /-- If lines are equal as texts, then their sources have the same number, whatever the reasons of
  failures say. If moreover the rounds succeeded, or failed for the same reason, then the sources
  are equal. -/
  texts : ∀ report ∈ reports events, ∀ other ∈ reports events, report.2.text = other.2.text →
    report.1.2.id = other.1.2.id ∧
      (report.2.level = .info ∨ report.2.fields.head? = other.2.fields.head? →
        report.1.2 = other.1.2)
  /-- If the channels of different generations have different sources, no two lines name the same
  source. -/
  distinctFields : ((announcements events).filterMap fun a => a.1.source).Nodup →
    ((lines events).map fun line => line.fields.lookup "source").Nodup
  /-- If the sources of different generations have different numbers, no two lines are equal as
  texts. -/
  distinctTexts : ((announcements events).filterMap fun a => a.1.source.map Source.id).Nodup →
    ((lines events).map Entry.text).Nodup

/-- **Lines about rounds tell the generations of a connection apart**, since the text of a source
identifies it. -/
theorem Course.tellsApart (course : Course settings metrics events h) : TellsApart events := by
  obtain ⟨hrounds, hlines, hreports⟩ := course.reports_spec
  constructor
  case printed => exact fun _ _ => Source.text_inj
  case complete => exact ⟨hrounds, hlines⟩
  case named =>
    exact fun report hreport =>
      ⟨course.mem_announcements_of_report hreport, (hreports report hreport).lookup_fields⟩
  case fields =>
    intro report hreport other hother
    rw [(hreports report hreport).lookup_fields, (hreports other hother).lookup_fields,
      Option.some.injEq, Source.text_inj]
  case texts =>
    intro report hreport other hother htext
    have hreport := hreports report hreport
    have hother := hreports other hother
    exact ⟨hreport.id_eq_of_text_eq hother htext, fun hend =>
      hreport.eq_of_text_eq hother hend htext⟩
  case distinctFields =>
    intro hdistinct
    refine course.nodup_lines id _ (fun _ _ line line' hline hline' hsame => ?_) (by simpa)
    rw [hline.lookup_fields, hline'.lookup_fields, Option.some.injEq] at hsame
    exact Source.text_inj.mp hsame
  case distinctTexts =>
    exact course.nodup_lines Source.id Entry.text fun _ _ _ _ hline hline' =>
      hline.id_eq_of_text_eq hline'

/-- The name of the second source holds the text of the first, and so does the reason why its round
failed. The round for the third source, which has no name, is still under way. -/
theorem tellsApart_of_similar_names :
    ∃ (events : List Event) (h : Handler Unit), Course {} none events h ∧
      announcements events =
        [(⟨0, some ⟨.interested, some "x", 1⟩⟩, 1), (⟨1, some ⟨.interested, some "x#1", 2⟩⟩, 2),
          (⟨2, some ⟨.interested, none, 3⟩⟩, 3)] ∧
      (lines events).map Entry.text =
        ["INFO Evicted instances in one round of eviction due to a new interest channel " ++
          "evicted=4 source=interested:x#1",
        "WARN Eviction round after a new interest channel failed error=Eviction failed: " ++
          "source=interested:x#1 source=interested:x#1#2"] ∧
      ((lines events).map Entry.text).Nodup ∧ TellsApart events := by
  have start : Course {} none [] (_ : Handler Unit) := ⟨_, rfl, .start⟩
  have first := ((start.step (.noticeLoop (rfl : noticeLoop? _ none = some _))).step
    (.answerLoop (.created ⟨0, some ⟨.interested, some "x", 1⟩⟩) rfl)).step
    (.answerLoop .applied rfl)
  have evicted := (first.step (.noticeEvictor rfl)).step (.answerEvictor _ (.ok 4))
  have lost := ((evicted.step (.noticeLoop (rfl : noticeLoop? _ (some .completed) = some _))).step
    (.answerLoop .released rfl)).step (.answerLoop .elapsed rfl)
  have second := (lost.step
    (.answerLoop (.created ⟨1, some ⟨.interested, some "x#1", 2⟩⟩) rfl)).step
    (.answerLoop .applied rfl)
  have failed := (second.step (.noticeEvictor rfl)).step
    (.answerEvictor _ (.error (.eviction "source=interested:x#1")))
  have again := ((failed.step (.noticeLoop (rfl : noticeLoop? _ (some .completed) = some _))).step
    (.answerLoop .released rfl)).step (.answerLoop .elapsed rfl)
  have third := (again.step (.answerLoop (.created ⟨2, some ⟨.interested, none, 3⟩⟩) rfl)).step
    (.answerLoop .applied rfl)
  have course := third.step (.noticeEvictor rfl)
  have tellsApart := course.tellsApart
  exact ⟨_, _, course, rfl, by decide, tellsApart.distinctTexts (by decide), tellsApart⟩

end Course

end Handler

end InterestMux
