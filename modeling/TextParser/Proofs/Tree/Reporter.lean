import Mathlib.Data.List.Nodup
import TextParser.Proofs.Checked.Parser
import TextParser.Proofs.Tree.Reports

/-!
The reporters of a tree, each with the text that its parser is given in a run. Main statement: the
reports of a run are those of the reporters whose parser fails, one for each in the order of the
tree, told in the text that this parser was given, whatever comes of the failure around it.

    tree          seq                     input     taken | v
                 /    \
      taken by       reporter             report    offset in v, window of v
      the first         |
                      parser              failure   bytes of taken + offset, where it is the tree's
-/

namespace TextParser.Tree

/-- A place in a tree where a reporter stands. -/
inductive Reporter : {α : Type} → Tree α → Type 1
  | here {α : Type} {settings : Report.Settings} {t : Tree α} : Reporter (.report settings t)
  | inside {α : Type} {settings : Report.Settings} {t : Tree α} (r : Reporter t) :
    Reporter (.report settings t)
  | first {α β : Type} {a : Tree α} {b : Tree β} (r : Reporter a) : Reporter (.seq a b)
  | second {α β : Type} {a : Tree α} {b : Tree β} (r : Reporter b) : Reporter (.seq a b)
  | left {α : Type} {a b : Tree α} (r : Reporter a) : Reporter (.or a b)
  | right {α : Type} {a b : Tree α} (r : Reporter b) : Reporter (.or a b)
  | map {α β : Type} {g : α → β} {t : Tree α} (r : Reporter t) : Reporter (.map g t)
  | withError {α : Type} {message : String} {t : Tree α} (r : Reporter t) :
    Reporter (.withError message t)

/-- The reporters of a tree, those inside of others first. -/
def reporters : {α : Type} → (t : Tree α) → List (Reporter t)
  | _, leaf _ => []
  | _, seq a b => a.reporters.map .first ++ b.reporters.map .second
  | _, or a b => a.reporters.map .left ++ b.reporters.map .right
  | _, map _ t => t.reporters.map .map
  | _, withError _ t => t.reporters.map .withError
  | _, report _ t => t.reporters.map .inside ++ [.here]

namespace Reporter

/-- How the reporter reports. -/
def settings : {α : Type} → {t : Tree α} → Reporter t → Report.Settings
  | _, .report settings _, here => settings
  | _, _, inside r => r.settings
  | _, _, first r => r.settings
  | _, _, second r => r.settings
  | _, _, left r => r.settings
  | _, _, right r => r.settings
  | _, _, map r => r.settings
  | _, _, withError r => r.settings

/-- The tree whose failures are reported, with the type of its values. -/
def inner : {α : Type} → {t : Tree α} → Reporter t → (β : Type) × Tree β
  | α, .report _ t, here => ⟨α, t⟩
  | _, _, inside r => r.inner
  | _, _, first r => r.inner
  | _, _, second r => r.inner
  | _, _, left r => r.inner
  | _, _, right r => r.inner
  | _, _, map r => r.inner
  | _, _, withError r => r.inner

/-- The text that the reporter is given in a run on `input`, if the run comes to it: in the second
part of a sequence what the first part leaves, in a second alternative the whole, if the first one
fails. -/
def text? : {α : Type} → {t : Tree α} → Reporter t → Text → Option Text
  | _, _, here, input => some input
  | _, _, inside r, input => r.text? input
  | _, _, first r, input => r.text? input
  | _, .seq a _, second r, input =>
    match (a.parser.parse input).value with
    | .success _ rest => r.text? rest
    | .failure _ => none
  | _, _, left r, input => r.text? input
  | _, .or a _, right r, input =>
    match (a.parser.parse input).value with
    | .success _ _ => none
    | .failure _ => r.text? input
  | _, _, map r, input => r.text? input
  | _, _, withError r, input => r.text? input

/-- Whether a failure of the tree on `input` is handed on from the reporter: from the part of a
sequence that fails, and of two alternatives from the first one. -/
def HandsOn : {α : Type} → {t : Tree α} → Reporter t → Text → Prop
  | _, _, here, _ => True
  | _, _, inside r, input => r.HandsOn input
  | _, .seq a _, first r, input => (a.parser.parse input).value.isFailure ∧ r.HandsOn input
  | _, .seq a _, second r, input =>
    ∃ x rest, (a.parser.parse input).value = .success x rest ∧ r.HandsOn rest
  | _, _, left r, input => r.HandsOn input
  | _, _, right _, _ => False
  | _, _, map r, input => r.HandsOn input
  | _, _, withError r, input => r.HandsOn input

variable {α β : Type} {t : Tree α} {input rest v : Text} {e f : Failure} {x : α}

/-- Whether the parser of the reporter is given `v` in a run on `input` and fails there with `e`. -/
structure FailsOn (r : Reporter t) (input v : Text) (e : Failure) : Prop where
  text?_eq : r.text? input = some v
  value_eq : (r.inner.2.parser.parse v).value = .failure e

/-- The report that the reporter makes in a run on `input`, if any. -/
def report? (r : Reporter t) (input : Text) : Option Entry :=
  (r.text? input).bind fun v =>
    (r.inner.2.parser.parse v).value.failure?.map (.report r.settings v)

/-- A reporter makes its one report if its parser is run and fails, and none else. -/
theorem report?_eq_some_iff {r : Reporter t} {entry : Entry} :
    r.report? input = some entry ↔ ∃ v e, r.FailsOn input v e ∧ entry = .report r.settings v e := by
  constructor
  · intro h
    obtain ⟨v, hv, hreport⟩ := Option.bind_eq_some_iff.1 h
    obtain ⟨e, he, rfl⟩ := Option.map_eq_some_iff.1 hreport
    cases hvalue : (r.inner.2.parser.parse v).value with
    | success x rest => rw [hvalue] at he; cases he
    | failure f =>
      rw [hvalue] at he
      cases he
      exact ⟨v, e, ⟨hv, hvalue⟩, rfl⟩
  · rintro ⟨v, e, ⟨hv, he⟩, rfl⟩
    rw [report?, hv, Option.bind_some, he]
    rfl

/-! ### Places -/

theorem mem_reporters (r : Reporter t) : r ∈ t.reporters := by
  induction r with
  | here => simp [reporters]
  | inside r ih | first r ih | second r ih | left r ih | right r ih | map r ih | withError r ih =>
    simp [reporters, ih]

theorem nodup_reporters (t : Tree α) : t.reporters.Nodup := by
  induction t with
  | leaf p => exact List.nodup_nil
  | seq a b iha ihb | or a b iha ihb =>
    refine List.Nodup.append (iha.map fun _ _ h => ?_) (ihb.map fun _ _ h => ?_) ?_
    · cases h; rfl
    · cases h; rfl
    · simp [List.disjoint_left]
  | map g t ih | withError message t ih =>
    refine ih.map fun _ _ h => ?_
    cases h
    rfl
  | report settings t ih =>
    refine List.Nodup.append (ih.map fun _ _ h => ?_) (List.nodup_singleton _) ?_
    · cases h; rfl
    · simp

/-! ### Reports, by outcome -/

theorem report?_second_of_success {a : Tree α} {b : Tree β} (r : Reporter b)
    (h : (a.parser.parse input).value = .success x rest) :
    (second r : Reporter (.seq a b)).report? input = r.report? rest := by
  simp only [report?, text?, h, inner, settings]

theorem report?_second_of_failure {a : Tree α} {b : Tree β} (r : Reporter b)
    (h : (a.parser.parse input).value = .failure f) :
    (second r : Reporter (.seq a b)).report? input = none := by
  simp only [report?, text?, h, Option.bind_none]

theorem report?_right_of_success {a b : Tree α} (r : Reporter b)
    (h : (a.parser.parse input).value = .success x rest) :
    (right r : Reporter (.or a b)).report? input = none := by
  simp only [report?, text?, h, Option.bind_none]

theorem report?_right_of_failure {a b : Tree α} (r : Reporter b)
    (h : (a.parser.parse input).value = .failure f) :
    (right r : Reporter (.or a b)).report? input = r.report? input := by
  simp only [report?, text?, h, inner, settings]

theorem report?_here (settings : Report.Settings) (t : Tree α) (input : Text) :
    (here : Reporter (.report settings t)).report? input =
      (t.parser.parse input).value.failure?.map (.report settings input) := rfl

end Reporter

/-- The reports of a run, in order. -/
def reports {α : Type} (t : Tree α) (input : Text) : List Entry :=
  (t.entries input).filter (·.own?.isNone)

variable {α β : Type} {input rest : Text} {x : α} {f : Failure}

/-- The reports of a run are what the reporters make, each in its place. -/
theorem reports_eq_filterMap (t : Tree α) (input : Text) :
    t.reports input = t.reporters.filterMap (·.report? input) := by
  induction t generalizing input with
  | leaf p => simp [reports, entries, reporters]
  | seq a b iha ihb =>
    rw [reporters, List.filterMap_append, List.filterMap_map, List.filterMap_map, Function.comp_def,
      Function.comp_def]
    cases ha : (a.parser.parse input).value with
    | success x rest =>
      simp only [Reporter.report?_second_of_success _ ha]
      rw [reports, entries_seq_of_success b ha, List.filter_append, ← reports, ← reports, iha, ihb]
      rfl
    | failure f =>
      simp only [Reporter.report?_second_of_failure _ ha, List.filterMap_none, List.append_nil]
      rw [reports, entries_seq_of_failure b ha, ← reports, iha]
      rfl
  | or a b iha ihb =>
    rw [reporters, List.filterMap_append, List.filterMap_map, List.filterMap_map, Function.comp_def,
      Function.comp_def]
    cases ha : (a.parser.parse input).value with
    | success x rest =>
      simp only [Reporter.report?_right_of_success _ ha, List.filterMap_none, List.append_nil]
      rw [reports, entries_or_of_success b ha, ← reports, iha]
      rfl
    | failure f =>
      simp only [Reporter.report?_right_of_failure _ ha]
      rw [reports, entries_or_of_failure b ha, List.filter_append,
        List.filter_cons_of_neg (by simp), ← reports, ← reports, iha, ihb]
      rfl
  | map g t ih =>
    rw [reports, entries, ← reports, ih, reporters, List.filterMap_map]
    rfl
  | withError message t ih =>
    rw [reports, entries, ← reports, ih, reporters, List.filterMap_map]
    rfl
  | report settings t ih =>
    rw [reporters, List.filterMap_append, List.filterMap_map]
    cases ht : (t.parser.parse input).value with
    | success x rest =>
      rw [reports, entries_report_of_success settings ht, ← reports, ih, List.filterMap_cons,
        Reporter.report?_here, ht]
      exact (List.append_nil _).symm
    | failure f =>
      rw [reports, entries_report_of_failure settings ht, List.filter_append, ← reports, ih,
        List.filterMap_cons, Reporter.report?_here, ht]
      rfl

/-- Over quiet leaves, what looks like a report in a record is one. -/
theorem filter_isReport_flatMap_events {es : List Entry}
    (hes : ∀ e, .own e ∈ es → ¬ e.isReport) :
    (es.flatMap Entry.events).filter (·.isReport) =
      (es.filter (·.own?.isNone)).flatMap Entry.events := by
  induction es with
  | nil => rfl
  | cons entry es ih =>
    have hrest := ih fun e he => hes e (List.mem_cons_of_mem _ he)
    rw [List.flatMap_cons, List.filter_append, hrest]
    cases entry with
    | own e =>
      have he : ¬ e.isReport := hes e List.mem_cons_self
      simp [Entry.events, he]
    | report settings input f =>
      cases hs : settings.sink <;>
        simp [Entry.events, Report.entry, Event.isReport, List.filter_cons, hs]

/-- A report is announced with its offset, and then sent to its sink. -/
theorem events_report (settings : Report.Settings) (v : Text) (e : Failure) :
    (Entry.report settings v e).events =
      match settings.sink with
      | .standardError =>
        [.reporting e.offset, .printed (Report.render v e settings.context)]
      | .log => [.reporting e.offset, .warning (Report.render v e settings.context) e.offset] := by
  cases hs : settings.sink <;> simp [Entry.events, Report.entry, hs]

/-! ### Texts of reporters -/

/-- A tree over leaves that stay within their texts stays within its text. -/
theorem EveryLeaf.staysWithin {t : Tree α} (ht : t.EveryLeaf fun _ p => p.StaysWithin) :
    t.parser.StaysWithin := by
  induction t with
  | leaf p => exact ht
  | seq a b iha ihb => exact (iha ht.1).andThen (ihb ht.2)
  | or a b iha ihb => exact (iha ht.1).orElse (ihb ht.2)
  | map g t ih => exact (ih ht).map g
  | withError message t ih => exact (ih ht).withError message
  | report settings t ih => exact (ih ht).reporting settings

namespace Reporter

variable {t : Tree α} {v : Text} {e : Failure}

/-- What holds of all leaves of a tree holds of those that are reported. -/
theorem everyLeaf_inner {P : (β : Type) → Parser β → Prop} (ht : t.EveryLeaf P) (r : Reporter t) :
    r.inner.2.EveryLeaf P := by
  induction r with
  | here => exact ht
  | first r ih | left r ih => exact ih ht.1
  | second r ih | right r ih => exact ih ht.2
  | inside r ih | map r ih | withError r ih => exact ih ht

theorem suffix_of_text? (ht : t.EveryLeaf fun _ p => p.StaysWithin) {r : Reporter t}
    (h : r.text? input = some v) : v <:+ input := by
  induction r generalizing input with
  | here =>
    cases h
    exact List.suffix_rfl
  | @second α β a b r ih =>
    cases ha : (a.parser.parse input).value with
    | success x rest =>
      simp only [text?, ha] at h
      exact (ih ht.2 h).trans (ht.1.staysWithin.leavesSuffix ha)
    | failure f =>
      simp only [text?, ha] at h
      cases h
  | @right α a b r ih =>
    cases ha : (a.parser.parse input).value with
    | success x rest =>
      simp only [text?, ha] at h
      cases h
    | failure f =>
      simp only [text?, ha] at h
      exact ih ht.2 h
  | first r ih | left r ih => exact ih ht.1 h
  | inside r ih | map r ih | withError r ih => exact ih ht h

theorem FailsOn.offset_le (ht : t.EveryLeaf fun _ p => p.StaysWithin) {r : Reporter t}
    (h : r.FailsOn input v e) : e.offset ≤ v.byteSize :=
  (everyLeaf_inner ht r).staysWithin.failsAt h.value_eq

/-- A failure that is handed on from a reporter is that of its parser, moved on by the bytes in
front of the text that this was given. -/
theorem HandsOn.exists_failsOn (ht : t.EveryLeaf fun _ p => p.StaysWithin) {r : Reporter t}
    (hr : r.HandsOn input) (hf : (t.parser.parse input).value = .failure f) :
    ∃ v e, r.FailsOn input v e ∧ f.offset = input.byteSize - v.byteSize + e.offset := by
  induction r generalizing input f with
  | here =>
    rw [parser, Parser.value_reporting] at hf
    exact ⟨input, f, ⟨rfl, hf⟩, by omega⟩
  | inside r ih =>
    rw [parser, Parser.value_reporting] at hf
    obtain ⟨v, e, ⟨hv, he⟩, hoffset⟩ := ih ht hr hf
    exact ⟨v, e, ⟨hv, he⟩, hoffset⟩
  | first r ih =>
    rcases Parser.andThen_eq_failure_iff.1 hf with ha | ⟨x, rest, g, ha, -, -⟩
    · obtain ⟨v, e, ⟨hv, he⟩, hoffset⟩ := ih ht.1 hr.2 ha
      exact ⟨v, e, ⟨hv, he⟩, hoffset⟩
    · have hfail := hr.1
      rw [ha] at hfail
      cases hfail
  | second r ih =>
    obtain ⟨x, rest, ha, hr⟩ := hr
    rcases Parser.andThen_eq_failure_iff.1 hf with h | ⟨y, middle, g, h, hb, rfl⟩
    · rw [ha] at h
      cases h
    · rw [ha] at h
      cases h
      obtain ⟨v, e, ⟨hv, he⟩, hoffset⟩ := ih ht.2 hr hb
      -- what is left behind `v`'s front is left of the input as well
      have hle := Text.byteSize_le_of_suffix (suffix_of_text? ht.2 hv)
      have hrest := Text.byteSize_le_of_suffix (ht.1.staysWithin.leavesSuffix ha)
      refine ⟨v, e, ⟨?_, he⟩, ?_⟩
      · simp only [text?, ha, hv]
      · rw [Failure.shifted, hoffset]
        dsimp only
        omega
  | left r ih =>
    obtain ⟨v, e, ⟨hv, he⟩, hoffset⟩ := ih ht.1 hr (Parser.orElse_eq_failure_iff.1 hf).1
    exact ⟨v, e, ⟨hv, he⟩, hoffset⟩
  | right r ih => exact hr.elim
  | map r ih =>
    rw [parser, Parser.parse_map] at hf
    obtain ⟨v, e, ⟨hv, he⟩, hoffset⟩ := ih ht hr (Parsed.map_eq_failure_iff.1 hf)
    exact ⟨v, e, ⟨hv, he⟩, hoffset⟩
  | withError r ih =>
    obtain ⟨g, hg, rfl⟩ := Parser.withError_eq_failure_iff.1 hf
    obtain ⟨v, e, ⟨hv, he⟩, hoffset⟩ := ih ht hr hg
    exact ⟨v, e, ⟨hv, he⟩, hoffset⟩

end Reporter

/-! ### Locality -/

/-- Reports are local. They are those of the reporters whose parsers are run and fail, one for each,
and are told in the text that the parser was given, a suffix of the input, with an offset within
that. A failure of the whole that is handed on from a reporter lies where its report says, moved on
by the bytes in front of that text. -/
theorem reports_local {t : Tree α} (ht : t.EveryLeaf fun _ p => p.StaysWithin) (input : Text) :
    -- each reporter makes the reports of its place
    (t.parser.parse input).log = (t.entries input).flatMap Entry.events ∧
    t.reports input = t.reporters.filterMap (·.report? input) ∧
    t.reporters.Nodup ∧ (∀ r : Reporter t, r ∈ t.reporters) ∧
    -- one where its parser is run and fails, and none else
    (∀ (r : Reporter t) (entry : Entry), r.report? input = some entry ↔
      ∃ v e, r.FailsOn input v e ∧ entry = .report r.settings v e) ∧
    -- told in the text that this was given
    (∀ (r : Reporter t) (v : Text) (e : Failure), r.FailsOn input v e →
      v <:+ input ∧ e.offset ≤ v.byteSize ∧ (Entry.report r.settings v e).events =
        match r.settings.sink with
        | .standardError =>
          [.reporting e.offset, .printed (Report.render v e r.settings.context)]
        | .log =>
          [.reporting e.offset, .warning (Report.render v e r.settings.context) e.offset]) ∧
    -- and moved on where the failure is handed on to the root
    (∀ (r : Reporter t) (f : Failure), r.HandsOn input →
      (t.parser.parse input).value = .failure f →
      ∃ v e, r.FailsOn input v e ∧ f.offset = input.byteSize - v.byteSize + e.offset) ∧
    -- over leaves that record nothing like a report
    ((t.EveryLeaf fun _ p => p.Quiet) → (t.parser.parse input).log.filter (·.isReport) =
      (t.reporters.filterMap (·.report? input)).flatMap Entry.events) := by
  have hlog := log_eq_flatMap_entries t input
  have hreports := reports_eq_filterMap t input
  refine ⟨hlog, hreports, Reporter.nodup_reporters t, Reporter.mem_reporters,
    fun _ _ => Reporter.report?_eq_some_iff, fun r v e h => ?_, fun r f hr hf => ?_,
    fun hquiet => ?_⟩
  · exact ⟨Reporter.suffix_of_text? ht h.text?_eq, h.offset_le ht, events_report r.settings v e⟩
  · exact hr.exists_failsOn ht hf
  · rw [hlog, ← hreports]
    exact filter_isReport_flatMap_events fun e he => not_isReport_of_mem_entries hquiet he

/-- The inner reporter of `reportedPair`, behind the `a`. -/
def innerReporter : Reporter reportedPair := .left (.inside (.second .here))

/-- Both alternatives fail. The inner reporter tells the missing `é` at the front of `c`, which is
one byte into the whole, where the failure is. -/
theorem reports_local_reportedPair :
    (reportedPair.EveryLeaf fun _ p => p.StaysWithin) ∧
      (reportedPair.parser.parse "ac".toList).value = .failure ⟨1, "expected é"⟩ ∧
      innerReporter.HandsOn "ac".toList ∧
      (∃ v e, innerReporter.FailsOn "ac".toList v e ∧
        1 = Text.byteSize "ac".toList - v.byteSize + e.offset) ∧
      (reportedPair.parser.parse "ac".toList).log.filter (·.isReport) =
        [.reporting 0, .printed "expected é (at offset 0)\n  | \n  | ^",
          .reporting 1, .warning "expected é (at offset 1)\n  | ac\n  |  ^" 1] := by
  have hleaf : ∀ text, (Parser.literal text).StaysWithin := fun text =>
    (Parser.KeepsContract.literal text).staysWithin
  have ht : reportedPair.EveryLeaf fun _ p => p.StaysWithin :=
    ⟨⟨hleaf _, hleaf _⟩, hleaf _, hleaf _⟩
  have hvalue : (reportedPair.parser.parse "ac".toList).value = .failure ⟨1, "expected é"⟩ := by
    rfl
  have hr : innerReporter.HandsOn "ac".toList := ⟨"a", "c".toList, rfl, trivial⟩
  obtain ⟨-, -, -, -, -, -, hmoved, hquiet⟩ := reports_local ht "ac".toList
  exact ⟨ht, hvalue, hr, hmoved innerReporter _ hr hvalue,
    (hquiet everyLeaf_reportedPair).trans rfl⟩

end TextParser.Tree
