import TextParser.Proofs.Parser.Choice
import TextParser.Proofs.Tree.Leaf

/-!
Reports, apart from all else that a run records. Main statement: without its reporters a tree has
the same results, and its record is the old one with the reports taken out; contexts and sinks
change what a report looks like and where it goes, and nothing else.

    record                 a  ↩  b  ▯  c  ▯         ▯ a report
    without reporters      a  ↩  b     c
    to the other sink      a  ↩  b  ▮  c  ▮

A leaf may record what looks like a report. Entries are therefore told apart by where they come
from, and what a leaf records stays.
-/

namespace TextParser

/-! ### Reports in a record -/

namespace Event

/-- Whether the event is of the kind that reporters record. -/
def isReport : Event → Bool
  | reporting _ => true
  | warning _ _ => true
  | printed _ => true
  | _ => false

/-- The text of a report that goes to the log. -/
def warning? : Event → Option String
  | warning report _ => some report
  | _ => none

theorem standardError_of_not_isReport {e : Event} (h : ¬ e.isReport) : e.standardError = "" := by
  cases e <;> simp_all [isReport, standardError]

theorem warning?_of_not_isReport {e : Event} (h : ¬ e.isReport) : e.warning? = none := by
  cases e <;> simp_all [isReport, warning?]

end Event

/-- Whether a parser never records what looks like a report. -/
def Parser.Quiet {α : Type} (p : Parser α) : Prop :=
  ∀ input, ∀ e ∈ (p.parse input).log, ¬ e.isReport

namespace Tree

/-- An entry in the record of a tree, by where it comes from: a leaf or an alternation, or else a
reporter, with the text that its parser was given and the failure there. -/
inductive Entry where
  | own (e : Event)
  | report (settings : Report.Settings) (input : Text) (f : Failure)

namespace Entry

/-- What is recorded for an entry. -/
def events : Entry → Log
  | own e => [e]
  | report settings input f => [.reporting f.offset, Report.entry settings input f]

/-- What is recorded for an entry when all reports go to `sink`. -/
def eventsTo : Report.Sink → Entry → Log
  | _, own e => [e]
  | .standardError, report settings input f =>
    [.reporting f.offset, .printed (Report.render input f settings.context)]
  | .log, report settings input f =>
    [.reporting f.offset, .warning (Report.render input f settings.context) f.offset]

/-- The event, if no reporter recorded it. -/
def own? : Entry → Option Event
  | own e => some e
  | report _ _ _ => none

/-- The text of a report. -/
def text? : Entry → Option String
  | own _ => none
  | report settings input f => some (Report.render input f settings.context)

@[simp] theorem own?_own (e : Event) : (own e).own? = some e := rfl

@[simp] theorem own?_report (settings : Report.Settings) (input : Text) (f : Failure) :
    (report settings input f).own? = none := rfl

@[simp] theorem text?_own (e : Event) : (own e).text? = none := rfl

@[simp] theorem text?_report (settings : Report.Settings) (input : Text) (f : Failure) :
    (report settings input f).text? = some (Report.render input f settings.context) := rfl

/-- The entry with the settings of a report changed by `g`. -/
def mapSettings (g : Report.Settings → Report.Settings) : Entry → Entry
  | own e => own e
  | report settings input f => report (g settings) input f

/-- The entry with the settings of a report left out of account. -/
def plain : Entry → Entry := mapSettings fun _ => {}

end Entry

/-- The entries of a run, in order. -/
def entries {α : Type} : Tree α → Text → List Entry
  | leaf p, input => (p.parse input).log.map .own
  | seq a b, input =>
    match (a.parser.parse input).value with
    | .success _ rest => a.entries input ++ b.entries rest
    | .failure _ => a.entries input
  | or a b, input =>
    match (a.parser.parse input).value with
    | .success _ _ => a.entries input
    | .failure _ => a.entries input ++ .own .fellBack :: b.entries input
  | map _ t, input => t.entries input
  | withError _ t, input => t.entries input
  | report settings t, input =>
    match (t.parser.parse input).value with
    | .success _ _ => t.entries input
    | .failure f => t.entries input ++ [.report settings input f]

/-! ### Trees with other reporters -/

/-- The tree without its reporters. -/
def erase {α : Type} : Tree α → Tree α
  | leaf p => leaf p
  | seq a b => seq a.erase b.erase
  | or a b => or a.erase b.erase
  | map f t => map f t.erase
  | withError message t => withError message t.erase
  | report _ t => t.erase

/-- The tree with the settings of its reporters changed by `g`. -/
def mapSettings (g : Report.Settings → Report.Settings) {α : Type} : Tree α → Tree α
  | leaf p => leaf p
  | seq a b => seq (a.mapSettings g) (b.mapSettings g)
  | or a b => or (a.mapSettings g) (b.mapSettings g)
  | map f t => map f (t.mapSettings g)
  | withError message t => withError message (t.mapSettings g)
  | report settings t => report (g settings) (t.mapSettings g)

/-- Whether two trees differ in nothing but the settings of their reporters. -/
def SameButSettings {α : Type} (s t : Tree α) : Prop :=
  s.mapSettings (fun _ => {}) = t.mapSettings (fun _ => {})

/-- The tree with all its reports sent to `sink`. -/
def sendTo {α : Type} (sink : Report.Sink) (t : Tree α) : Tree α :=
  t.mapSettings fun settings => { settings with sink }

variable {α β : Type} {input rest : Text} {x : α} {f : Failure}

/-! ### Entries, by outcome -/

theorem entries_seq_of_success {a : Tree α} (b : Tree β)
    (h : (a.parser.parse input).value = .success x rest) :
    (seq a b).entries input = a.entries input ++ b.entries rest := by
  simp only [entries, h]

theorem entries_seq_of_failure {a : Tree α} (b : Tree β)
    (h : (a.parser.parse input).value = .failure f) :
    (seq a b).entries input = a.entries input := by
  simp only [entries, h]

theorem entries_or_of_success {a : Tree α} (b : Tree α)
    (h : (a.parser.parse input).value = .success x rest) :
    (or a b).entries input = a.entries input := by
  simp only [entries, h]

theorem entries_or_of_failure {a : Tree α} (b : Tree α)
    (h : (a.parser.parse input).value = .failure f) :
    (or a b).entries input = a.entries input ++ .own .fellBack :: b.entries input := by
  simp only [entries, h]

theorem entries_report_of_success {t : Tree α} (settings : Report.Settings)
    (h : (t.parser.parse input).value = .success x rest) :
    (report settings t).entries input = t.entries input := by
  simp only [entries, h]

theorem entries_report_of_failure {t : Tree α} (settings : Report.Settings)
    (h : (t.parser.parse input).value = .failure f) :
    (report settings t).entries input = t.entries input ++ [.report settings input f] := by
  simp only [entries, h]

/-! ### The record -/

@[simp] theorem flatMap_events_own (l : Log) : (l.map Entry.own).flatMap Entry.events = l := by
  simp only [List.flatMap_map, Entry.events, List.flatMap_singleton']

@[simp] theorem filterMap_own?_own (l : Log) : (l.map Entry.own).filterMap Entry.own? = l := by
  simp only [List.filterMap_map, Function.comp_def, Entry.own?, List.filterMap_some]

@[simp] theorem map_mapSettings_own (g : Report.Settings → Report.Settings) (l : Log) :
    (l.map Entry.own).map (Entry.mapSettings g) = l.map Entry.own := by
  simp only [List.map_map, Function.comp_def, Entry.mapSettings]

/-- A tree records what its entries stand for. -/
theorem log_eq_flatMap_entries (t : Tree α) (input : Text) :
    (t.parser.parse input).log = (t.entries input).flatMap Entry.events := by
  induction t generalizing input with
  | leaf p => rw [parser, entries, flatMap_events_own]
  | seq a b iha ihb =>
    cases ha : (a.parser.parse input).value with
    | success x rest =>
      rw [parser, Parser.parse_andThen_of_success _ ha, entries_seq_of_success b ha,
        List.flatMap_append, ← iha, ← ihb]
    | failure f =>
      rw [parser, Parser.parse_andThen_of_failure _ ha, entries_seq_of_failure b ha, ← iha]
  | or a b iha ihb =>
    cases ha : (a.parser.parse input).value with
    | success x rest =>
      rw [parser, Parser.parse_orElse_of_success _ ha, entries_or_of_success b ha, ← iha]
    | failure f =>
      rw [parser, Parser.parse_orElse_of_failure _ ha, entries_or_of_failure b ha,
        List.flatMap_append, List.flatMap_cons, ← iha, ← ihb]
      rfl
  | map g t ih => rw [parser, Parser.parse_map, entries, ← ih]
  | withError message t ih => rw [parser, Parser.parse_withError, entries, ← ih]
  | report settings t ih =>
    cases ht : (t.parser.parse input).value with
    | success x rest =>
      rw [parser, Parser.parse_reporting_of_success _ ht, entries_report_of_success settings ht,
        ← ih]
    | failure f =>
      rw [parser, Parser.parse_reporting_of_failure _ ht, entries_report_of_failure settings ht,
        List.flatMap_append, ← ih]
      rfl

/-- Without its reporters a tree has the same result, and records the entries that are not
theirs. -/
theorem parse_erase (t : Tree α) (input : Text) :
    t.erase.parser.parse input =
      ⟨(t.parser.parse input).value, (t.entries input).filterMap Entry.own?⟩ := by
  induction t generalizing input with
  | leaf p => rw [erase, parser, entries, filterMap_own?_own]
  | seq a b iha ihb =>
    have hfront := iha input
    cases ha : (a.parser.parse input).value with
    | success x rest =>
      rw [ha] at hfront
      rw [erase, parser, Parser.parse_andThen_of_success _ (congrArg Logged.value hfront), hfront,
        ihb, parser, Parser.parse_andThen_of_success _ ha, entries_seq_of_success b ha,
        List.filterMap_append]
    | failure f =>
      rw [ha] at hfront
      rw [erase, parser, Parser.parse_andThen_of_failure _ (congrArg Logged.value hfront), hfront,
        parser, Parser.parse_andThen_of_failure _ ha, entries_seq_of_failure b ha]
  | or a b iha ihb =>
    have hfront := iha input
    cases ha : (a.parser.parse input).value with
    | success x rest =>
      rw [ha] at hfront
      rw [erase, parser, Parser.parse_orElse_of_success _ (congrArg Logged.value hfront), hfront,
        parser, Parser.parse_orElse_of_success _ ha, ha, entries_or_of_success b ha]
    | failure f =>
      rw [ha] at hfront
      rw [erase, parser, Parser.parse_orElse_of_failure _ (congrArg Logged.value hfront), hfront,
        ihb, parser, Parser.parse_orElse_of_failure _ ha, entries_or_of_failure b ha,
        List.filterMap_append]
      rfl
  | map g t ih => rw [erase, parser, Parser.parse_map, ih, parser, Parser.parse_map, entries]
  | withError message t ih =>
    rw [erase, parser, Parser.parse_withError, ih, parser, Parser.parse_withError, entries]
  | report settings t ih =>
    rw [erase, ih, parser, Parser.value_reporting]
    cases ht : (t.parser.parse input).value with
    | success x rest => rw [entries_report_of_success settings ht]
    | failure f =>
      rw [entries_report_of_failure settings ht, List.filterMap_append]
      exact congrArg (Logged.mk _) (List.append_nil _).symm

theorem value_erase (t : Tree α) (input : Text) :
    (t.erase.parser.parse input).value = (t.parser.parse input).value := by
  rw [parse_erase]

/-! ### Other settings -/

theorem erase_mapSettings (g : Report.Settings → Report.Settings) (t : Tree α) :
    (t.mapSettings g).erase = t.erase := by
  induction t with
  | leaf p => rfl
  | seq a b iha ihb => rw [mapSettings, erase, iha, ihb, erase]
  | or a b iha ihb => rw [mapSettings, erase, iha, ihb, erase]
  | map f t ih => rw [mapSettings, erase, ih, erase]
  | withError message t ih => rw [mapSettings, erase, ih, erase]
  | report settings t ih => rw [mapSettings, erase, ih, erase]

theorem value_mapSettings (g : Report.Settings → Report.Settings) (t : Tree α) (input : Text) :
    ((t.mapSettings g).parser.parse input).value = (t.parser.parse input).value := by
  rw [← value_erase, erase_mapSettings, value_erase]

/-- With other settings the same entries are made, in the same order. -/
theorem entries_mapSettings (g : Report.Settings → Report.Settings) (t : Tree α) (input : Text) :
    (t.mapSettings g).entries input = (t.entries input).map (Entry.mapSettings g) := by
  induction t generalizing input with
  | leaf p => rw [mapSettings, entries, map_mapSettings_own]
  | seq a b iha ihb =>
    cases ha : (a.parser.parse input).value with
    | success x rest =>
      rw [mapSettings, entries_seq_of_success _ ((value_mapSettings g a input).trans ha), iha, ihb,
        entries_seq_of_success b ha, List.map_append]
    | failure f =>
      rw [mapSettings, entries_seq_of_failure _ ((value_mapSettings g a input).trans ha), iha,
        entries_seq_of_failure b ha]
  | or a b iha ihb =>
    cases ha : (a.parser.parse input).value with
    | success x rest =>
      rw [mapSettings, entries_or_of_success _ ((value_mapSettings g a input).trans ha), iha,
        entries_or_of_success b ha]
    | failure f =>
      rw [mapSettings, entries_or_of_failure _ ((value_mapSettings g a input).trans ha), iha, ihb,
        entries_or_of_failure b ha, List.map_append, List.map_cons, Entry.mapSettings]
  | map f t ih => rw [mapSettings, entries, ih, entries]
  | withError message t ih => rw [mapSettings, entries, ih, entries]
  | report settings t ih =>
    cases ht : (t.parser.parse input).value with
    | success x rest =>
      rw [mapSettings, entries_report_of_success _ ((value_mapSettings g t input).trans ht), ih,
        entries_report_of_success settings ht]
    | failure f =>
      rw [mapSettings, entries_report_of_failure _ ((value_mapSettings g t input).trans ht), ih,
        entries_report_of_failure settings ht, List.map_append, List.map_singleton,
        Entry.mapSettings]

/-- Trees that differ in nothing but settings have the same result, and make the same entries in
the same order. -/
theorem SameButSettings.same {s t : Tree α} (h : s.SameButSettings t) (input : Text) :
    (s.parser.parse input).value = (t.parser.parse input).value ∧
      (s.entries input).map Entry.plain = (t.entries input).map Entry.plain := by
  constructor
  · rw [← value_mapSettings (fun _ => {}) s, h, value_mapSettings]
  · rw [Entry.plain, ← entries_mapSettings, ← entries_mapSettings, h]

theorem log_sendTo (sink : Report.Sink) (t : Tree α) (input : Text) :
    ((t.sendTo sink).parser.parse input).log =
      (t.entries input).flatMap (Entry.eventsTo sink) := by
  have hevents : ∀ entry : Entry,
      (entry.mapSettings fun settings => { settings with sink }).events = entry.eventsTo sink := by
    intro entry
    cases entry <;> cases sink <;> rfl
  rw [sendTo, log_eq_flatMap_entries, entries_mapSettings, List.flatMap_map]
  simp only [hevents]

/-! ### What can be seen -/

/-- Reports are no fallbacks. -/
theorem fallbacks_filterMap_own? (es : List Entry) :
    Log.fallbacks (es.filterMap Entry.own?) = Log.fallbacks (es.flatMap Entry.events) := by
  induction es with
  | nil => rfl
  | cons entry es ih =>
    rw [List.flatMap_cons, Log.fallbacks_append, ← ih]
    cases entry with
    | own e =>
      exact Log.fallbacks_append [e] (es.filterMap Entry.own?)
    | report settings input f =>
      have hnone : Log.fallbacks (Entry.report settings input f).events = 0 := by
        cases hs : settings.sink <;> simp [Entry.events, Report.entry, Log.fallbacks, hs]
      rw [hnone, Nat.zero_add]
      rfl

/-- Over quiet leaves, what looks like a report comes from a reporter. -/
theorem not_isReport_of_mem_entries {t : Tree α} (ht : t.EveryLeaf fun _ p => p.Quiet) {e : Event}
    (he : .own e ∈ t.entries input) : ¬ e.isReport := by
  induction t generalizing input with
  | leaf p =>
    simp only [entries, List.mem_map, Entry.own.injEq, exists_eq_right] at he
    exact ht input e he
  | seq a b iha ihb =>
    cases ha : (a.parser.parse input).value with
    | success x rest =>
      rw [entries_seq_of_success b ha, List.mem_append] at he
      exact he.elim (iha ht.1) (ihb ht.2)
    | failure f =>
      rw [entries_seq_of_failure b ha] at he
      exact iha ht.1 he
  | or a b iha ihb =>
    cases ha : (a.parser.parse input).value with
    | success x rest =>
      rw [entries_or_of_success b ha] at he
      exact iha ht.1 he
    | failure f =>
      rw [entries_or_of_failure b ha, List.mem_append, List.mem_cons] at he
      rcases he with he | he | he
      · exact iha ht.1 he
      · cases he
        exact Bool.false_ne_true
      · exact ihb ht.2 he
  | map g t ih => exact ih ht he
  | withError message t ih => exact ih ht he
  | report settings t ih =>
    cases hv : (t.parser.parse input).value with
    | success x rest =>
      rw [entries_report_of_success settings hv] at he
      exact ih ht he
    | failure f =>
      rw [entries_report_of_failure settings hv, List.mem_append, List.mem_singleton] at he
      rcases he with he | he
      · exact ih ht he
      · cases he

section Quiet

variable {es : List Entry} (hes : ∀ e, .own e ∈ es → ¬ e.isReport)

include hes

/-- In a quiet record the reports are the events that look like reports. -/
theorem filter_flatMap_events :
    (es.flatMap Entry.events).filter (!·.isReport) = es.filterMap Entry.own? := by
  induction es with
  | nil => rfl
  | cons entry es ih =>
    have hrest := ih fun e he => hes e (List.mem_cons_of_mem _ he)
    rw [List.flatMap_cons, List.filter_append, hrest]
    cases entry with
    | own e =>
      have he : ¬ e.isReport := hes e List.mem_cons_self
      simp [Entry.events, he]
    | report settings input f =>
      cases hs : settings.sink <;>
        simp [Entry.events, Report.entry, Event.isReport, List.filterMap_cons, hs]

/-- Standard error holds the texts of the reports, if they are sent there, and nothing else. -/
theorem standardError_flatMap_eventsTo (sink : Report.Sink) :
    Log.standardError (es.flatMap (Entry.eventsTo sink)) =
      match sink with
      | .standardError => String.join ((es.filterMap Entry.text?).map (· ++ "\n"))
      | .log => "" := by
  induction es with
  | nil => cases sink <;> rfl
  | cons entry es ih =>
    have hrest := ih fun e he => hes e (List.mem_cons_of_mem _ he)
    rw [Log.standardError] at hrest ⊢
    rw [List.flatMap_cons, List.map_append, String.join_append, hrest]
    cases entry with
    | own e =>
      have he := Event.standardError_of_not_isReport (hes e List.mem_cons_self)
      cases sink <;> simp [Entry.eventsTo, List.filterMap_cons, he]
    | report settings input f => cases sink <;> simp [Entry.eventsTo, Event.standardError]

/-- The log holds the texts of the reports as warnings, if they are sent there, and no others. -/
theorem warnings_flatMap_eventsTo (sink : Report.Sink) :
    (es.flatMap (Entry.eventsTo sink)).filterMap Event.warning? =
      match sink with
      | .standardError => []
      | .log => es.filterMap Entry.text? := by
  induction es with
  | nil => cases sink <;> rfl
  | cons entry es ih =>
    have hrest := ih fun e he => hes e (List.mem_cons_of_mem _ he)
    rw [List.flatMap_cons, List.filterMap_append, hrest]
    cases entry with
    | own e =>
      have he := Event.warning?_of_not_isReport (hes e List.mem_cons_self)
      cases sink <;> simp [Entry.eventsTo, List.filterMap_cons, he]
    | report settings input f =>
      cases sink <;> simp [Entry.eventsTo, Event.warning?, List.filterMap_cons]

end Quiet

/-- Erasing the reporters of a tree leaves its results and its fallbacks as they are, and takes
nothing but the reports out of its record. Other settings leave the results, and how many reports
there are in which order. Sent to the other sink, the same texts stand in the same places. -/
theorem reports_apart (t : Tree α) (input : Text) :
    -- without reporters
    (t.erase.parser.parse input).value = (t.parser.parse input).value ∧
    (t.erase.parser.parse input).log.fallbacks = (t.parser.parse input).log.fallbacks ∧
    (t.parser.parse input).log = (t.entries input).flatMap Entry.events ∧
    (t.erase.parser.parse input).log = (t.entries input).filterMap Entry.own? ∧
    -- with reporters of other settings
    (∀ s : Tree α, s.SameButSettings t →
      (s.parser.parse input).value = (t.parser.parse input).value ∧
        (s.entries input).map Entry.plain = (t.entries input).map Entry.plain) ∧
    -- with all reports sent to one sink
    (∀ sink, ((t.sendTo sink).parser.parse input).log =
      (t.entries input).flatMap (Entry.eventsTo sink)) ∧
    -- over leaves that record nothing like a report
    ((t.EveryLeaf fun _ p => p.Quiet) →
      (t.erase.parser.parse input).log = (t.parser.parse input).log.filter (!·.isReport) ∧
      ((t.sendTo .standardError).parser.parse input).log.standardError =
        String.join (((t.entries input).filterMap Entry.text?).map (· ++ "\n")) ∧
      ((t.sendTo .standardError).parser.parse input).log.filterMap Event.warning? = [] ∧
      ((t.sendTo .log).parser.parse input).log.standardError = "" ∧
      ((t.sendTo .log).parser.parse input).log.filterMap Event.warning? =
        (t.entries input).filterMap Entry.text?) := by
  have herase : (t.erase.parser.parse input).log = (t.entries input).filterMap Entry.own? := by
    rw [parse_erase]
  have hlog := log_eq_flatMap_entries t input
  refine ⟨value_erase t input, ?_, hlog, herase, fun s hs => hs.same input,
    fun sink => log_sendTo sink t input, fun ht => ?_⟩
  · rw [herase, hlog, fallbacks_filterMap_own?]
  · have hes : ∀ e, Entry.own e ∈ t.entries input → ¬ e.isReport :=
      fun _ he => not_isReport_of_mem_entries ht he
    rw [herase, hlog, filter_flatMap_events hes, log_sendTo, log_sendTo]
    exact ⟨rfl, standardError_flatMap_eventsTo hes .standardError,
      warnings_flatMap_eventsTo hes .standardError, standardError_flatMap_eventsTo hes .log,
      warnings_flatMap_eventsTo hes .log⟩

/-- Two letters, with a reporter inside another one in an alternative that may be given up. -/
def reportedPair : Tree (String × String) :=
  .or
    (.report { sink := .log }
      (.seq (.leaf (.literal "a")) (.report { context := 0 } (.leaf (.literal "é")))))
    (.seq (.leaf (.literal "a")) (.leaf (.literal "b")))

theorem everyLeaf_reportedPair : reportedPair.EveryLeaf fun _ p => p.Quiet := by
  have hquiet : ∀ text, (Parser.literal text).Quiet := by
    intro text input e he
    simp only [Parser.literal] at he
    split at he <;> cases he
  exact ⟨⟨hquiet _, hquiet _⟩, hquiet _, hquiet _⟩

/-- Both reporters tell the missing `é`, each in the text that it was given, though the second
alternative then succeeds. -/
theorem reports_apart_reportedPair :
    (reportedPair.sendTo .log).SameButSettings reportedPair ∧
      (reportedPair.EveryLeaf fun _ p => p.Quiet) ∧
      ((reportedPair.sendTo .log).parser.parse "ab".toList).value = .success ("a", "b") [] ∧
      ((reportedPair.sendTo .log).parser.parse "ab".toList).log.filterMap Event.warning? =
        ["expected é (at offset 0)\n  | \n  | ^", "expected é (at offset 1)\n  | ab\n  |  ^"] := by
  have hsame : (reportedPair.sendTo .log).SameButSettings reportedPair := rfl
  have h := reports_apart reportedPair "ab".toList
  obtain ⟨-, -, -, -, hsettings, -, hquiet⟩ := h
  obtain ⟨-, -, -, -, hwarnings⟩ := hquiet everyLeaf_reportedPair
  have hvalue : (reportedPair.parser.parse "ab".toList).value = .success ("a", "b") [] := by rfl
  refine ⟨hsame, everyLeaf_reportedPair, (hsettings _ hsame).1.trans hvalue, hwarnings.trans ?_⟩
  rfl

end Tree

end TextParser
