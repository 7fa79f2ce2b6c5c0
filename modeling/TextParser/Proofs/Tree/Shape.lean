import Mathlib.Data.List.Forall2
import TextParser.Proofs.Parser.Choice
import TextParser.Proofs.Tree.Leaf

/-!
Two trees of the same shape, run side by side. Main statement: whatever the values and messages in
them are, both runs take the same course. They leave the same text or fail at the same place, and
record the same, but for the messages in the reports.

    first     a ↩ b        failure at 3, "no letter"
    second    a ↩ b        failure at 3, "no digit"

A combination looks at nothing but whether its parts succeed and at how much text is left.
-/

namespace TextParser

variable {α β γ δ : Type} {M : String → String → Prop}

/-! ### Results and events -/

/-- Whether two results leave the same text, or are failures at the same place with messages that
may stand for each other. -/
inductive Parsed.Alike (M : String → String → Prop) {α β : Type} : Parsed α → Parsed β → Prop
  | success (a : α) (b : β) (rest : Text) : Alike M (.success a rest) (.success b rest)
  | failure (offset : Nat) {m n : String} (h : M m n) :
    Alike M (.failure ⟨offset, m⟩) (.failure ⟨offset, n⟩)

/-- Whether two events are the same, or reports that show the same window on the same text for
failures at the same place. -/
inductive Event.Alike (M : String → String → Prop) : Event → Event → Prop
  | same (e : Event) : Alike M e e
  | printed (input : Text) (offset context : Nat) {m n : String} (h : M m n) :
    Alike M (.printed (Report.render input ⟨offset, m⟩ context))
      (.printed (Report.render input ⟨offset, n⟩ context))
  | warning (input : Text) (offset context : Nat) {m n : String} (h : M m n) :
    Alike M (.warning (Report.render input ⟨offset, m⟩ context) offset)
      (.warning (Report.render input ⟨offset, n⟩ context) offset)

/-- Whether two runs take the same course. -/
structure RunAlike (M : String → String → Prop) (x : Logged (Parsed α)) (y : Logged (Parsed β)) :
    Prop where
  value : Parsed.Alike M x.value y.value
  log : List.Forall₂ (Event.Alike M) x.log y.log

namespace Parsed.Alike

variable {x : Parsed α} {y : Parsed β}

theorem map (h : Alike M x y) (f : α → γ) (g : β → δ) : Alike M (x.map f) (y.map g) := by
  cases h with
  | success a b rest => exact .success (f a) (g b) rest
  | failure offset h => exact .failure offset h

theorem shifted (h : Alike M x y) (consumed : Nat) :
    Alike M (x.shifted consumed) (y.shifted consumed) := by
  cases h with
  | success a b rest => exact .success a b rest
  | failure offset h => exact .failure (offset + consumed) h

/-- Of two alternatives that fail, the first one tells its failure. -/
theorem orParse (h : Alike M x y) (offset : Nat) {m n : String} (hM : M m n) :
    Alike M ((Parsed.failure ⟨offset, m⟩).orParse x) ((Parsed.failure ⟨offset, n⟩).orParse y) := by
  cases h with
  | success a b rest => exact .success a b rest
  | failure _ _ => exact .failure offset hM

/-- With other messages in place of theirs, failures stay at their places. -/
theorem withMessage (h : Alike M x y) {m n : String} (hM : M m n) :
    Alike M (x.mapFailure (·.withMessage m)) (y.mapFailure (·.withMessage n)) := by
  cases h with
  | success a b rest => exact .success a b rest
  | failure offset _ => exact .failure offset hM

theorem success_or_failure (h : Alike M x y) :
    (∃ a b rest, x = .success a rest ∧ y = .success b rest) ∨
      ∃ offset m n, M m n ∧ x = .failure ⟨offset, m⟩ ∧ y = .failure ⟨offset, n⟩ := by
  cases h with
  | success a b rest => exact .inl ⟨a, b, rest, rfl, rfl⟩
  | failure offset h => exact .inr ⟨offset, _, _, h, rfl, rfl⟩

theorem failure?_eq (h : Alike M x y) (hM : ∀ m n, M m n → m = n) : x.failure? = y.failure? := by
  cases h with
  | success a b rest => rfl
  | failure offset h =>
    obtain rfl := hM _ _ h
    rfl

end Parsed.Alike

namespace Event

theorem Alike.eq {d e : Event} (h : Alike M d e) (hM : ∀ m n, M m n → m = n) : d = e := by
  cases h with
  | same e => rfl
  | printed input offset context h | warning input offset context h =>
    obtain rfl := hM _ _ h
    rfl

theorem Alike.fallbacks_eq {d e : Event} (h : Alike M d e) :
    Log.fallbacks [d] = Log.fallbacks [e] := by
  cases h <;> rfl

theorem alike_log (l : Log) : List.Forall₂ (Alike M) l l :=
  List.forall₂_same.2 fun e _ => .same e

theorem alike_entry (settings : Report.Settings) (input : Text) (offset : Nat) {m n : String}
    (h : M m n) : Alike M (Report.entry settings input ⟨offset, m⟩)
      (Report.entry settings input ⟨offset, n⟩) := by
  cases hs : settings.sink with
  | standardError =>
    simp only [Report.entry, hs]
    exact .printed input offset _ h
  | log =>
    simp only [Report.entry, hs]
    exact .warning input offset _ h

end Event

theorem Log.fallbacks_eq_of_alike {l k : Log} (h : List.Forall₂ (Event.Alike M) l k) :
    l.fallbacks = k.fallbacks := by
  induction h with
  | nil => rfl
  | cons he _ ih =>
    rw [← List.singleton_append, fallbacks_append, he.fallbacks_eq, ih, ← fallbacks_append]
    rfl

/-! ### Combinations -/

/-- Whether two parsers take the same course on every text. -/
def Parser.Alike (M : String → String → Prop) (p : Parser α) (q : Parser β) : Prop :=
  ∀ input, RunAlike M (p.parse input) (q.parse input)

namespace Parser.Alike

theorem andThen {p : Parser α} {p' : Parser γ} {q : Parser β} {q' : Parser δ} (hp : Alike M p p')
    (hq : Alike M q q') : Alike M (p.andThen q) (p'.andThen q') := by
  intro input
  have hfront := hp input
  rcases hfront.value.success_or_failure with ⟨a, b, rest, ha, hb⟩ | ⟨offset, m, n, hM, ha, hb⟩
  · have hback := hq rest
    rw [parse_andThen_of_success q ha, parse_andThen_of_success q' hb]
    exact ⟨(hback.value.map _ _).shifted _, List.rel_append hfront.log hback.log⟩
  · rw [parse_andThen_of_failure q ha, parse_andThen_of_failure q' hb]
    exact ⟨.failure offset hM, hfront.log⟩

theorem orElse {p q : Parser α} {p' q' : Parser β} (hp : Alike M p p') (hq : Alike M q q') :
    Alike M (p.orElse q) (p'.orElse q') := by
  intro input
  have hfront := hp input
  rcases hfront.value.success_or_failure with ⟨a, b, rest, ha, hb⟩ | ⟨offset, m, n, hM, ha, hb⟩
  · rw [parse_orElse_of_success q ha, parse_orElse_of_success q' hb]
    exact hfront
  · have hback := hq input
    rw [parse_orElse_of_failure q ha, parse_orElse_of_failure q' hb]
    exact ⟨hback.value.orParse offset hM,
      List.rel_append hfront.log (.cons (.same .fellBack) hback.log)⟩

theorem map {p : Parser α} {q : Parser β} (h : Alike M p q) (f : α → γ) (g : β → δ) :
    Alike M (p.map f) (q.map g) := by
  intro input
  rw [parse_map, parse_map]
  exact ⟨(h input).value.map f g, (h input).log⟩

theorem withError {p : Parser α} {q : Parser β} (h : Alike M p q) {m n : String} (hM : M m n) :
    Alike M (p.withError m) (q.withError n) := by
  intro input
  rw [parse_withError, parse_withError]
  exact ⟨(h input).value.withMessage hM, (h input).log⟩

theorem reporting {p : Parser α} {q : Parser β} (h : Alike M p q) (settings : Report.Settings) :
    Alike M (p.reporting settings) (q.reporting settings) := by
  intro input
  have hrun := h input
  rcases hrun.value.success_or_failure with ⟨a, b, rest, ha, hb⟩ | ⟨offset, m, n, hM, ha, hb⟩
  · rw [parse_reporting_of_success settings ha, parse_reporting_of_success settings hb]
    exact hrun
  · rw [parse_reporting_of_failure settings ha, parse_reporting_of_failure settings hb]
    have hreport := Event.alike_entry settings input offset hM
    exact ⟨.failure offset hM, List.rel_append hrun.log
      (.cons (.same (.reporting offset)) (.cons hreport .nil))⟩

end Parser.Alike

/-! ### Shapes -/

namespace Tree

/-- Whether two trees are of the same shape: their combinations are the same, with any functions on
values and with messages that may stand for each other, and their leaves take the same course and
record the same. -/
inductive SameShape (M : String → String → Prop) : {α β : Type} → Tree α → Tree β → Prop
  | leaf {α β : Type} {p : Parser α} {q : Parser β}
    (h : ∀ input, Parsed.Alike M (p.parse input).value (q.parse input).value ∧
      (p.parse input).log = (q.parse input).log) : SameShape M (.leaf p) (.leaf q)
  | seq {α β γ δ : Type} {a : Tree α} {b : Tree β} {a' : Tree γ} {b' : Tree δ}
    (ha : SameShape M a a') (hb : SameShape M b b') : SameShape M (.seq a b) (.seq a' b')
  | or {α β : Type} {a b : Tree α} {a' b' : Tree β} (ha : SameShape M a a')
    (hb : SameShape M b b') : SameShape M (.or a b) (.or a' b')
  | map {α β γ δ : Type} {s : Tree α} {t : Tree β} (f : α → γ) (g : β → δ)
    (h : SameShape M s t) : SameShape M (.map f s) (.map g t)
  | withError {α β : Type} {s : Tree α} {t : Tree β} {m n : String} (hM : M m n)
    (h : SameShape M s t) : SameShape M (.withError m s) (.withError n t)
  | report {α β : Type} {s : Tree α} {t : Tree β} (settings : Report.Settings)
    (h : SameShape M s t) : SameShape M (.report settings s) (.report settings t)

theorem SameShape.alike {s : Tree α} {t : Tree β} (h : SameShape M s t) :
    s.parser.Alike M t.parser := by
  induction h with
  | leaf h =>
    intro input
    obtain ⟨hvalue, hlog⟩ := h input
    refine ⟨hvalue, ?_⟩
    rw [parser, parser, hlog]
    exact Event.alike_log _
  | seq _ _ iha ihb => exact iha.andThen ihb
  | or _ _ iha ihb => exact iha.orElse ihb
  | map f g _ ih => exact ih.map f g
  | withError hM _ ih => exact ih.withError hM
  | report settings _ ih => exact ih.reporting settings

/-- Neither values nor messages steer a run. Trees of the same shape both leave the same text or
both fail at the same place, fall back equally often, and report the same windows in the same order.
If messages stand for themselves only, failures and records are the same. -/
theorem SameShape.same_course {s : Tree α} {t : Tree β} (h : SameShape M s t) (input : Text) :
    Parsed.Alike M (s.parser.parse input).value (t.parser.parse input).value ∧
      (s.parser.parse input).log.fallbacks = (t.parser.parse input).log.fallbacks ∧
      List.Forall₂ (Event.Alike M) (s.parser.parse input).log (t.parser.parse input).log ∧
      ((∀ m n, M m n → m = n) →
        (s.parser.parse input).value.failure? = (t.parser.parse input).value.failure? ∧
          (s.parser.parse input).log = (t.parser.parse input).log) := by
  obtain ⟨hvalue, hlog⟩ := h.alike input
  refine ⟨hvalue, Log.fallbacks_eq_of_alike hlog, hlog, fun hM => ⟨hvalue.failure?_eq hM, ?_⟩⟩
  have heq : List.Forall₂ Eq (s.parser.parse input).log (t.parser.parse input).log :=
    hlog.imp fun _ _ he => he.eq hM
  rwa [List.forall₂_eq_eq_eq] at heq

/-- Two letters or a sign, with a value made of what is taken and a message of one's own. -/
def labelled (message : String) (value : String → α) : Tree α :=
  .report {} (.withError message (.or
    (.map (fun letters => value letters.1) (.seq (.leaf (.literal "é")) (.leaf (.literal "b"))))
    (.map value (.leaf (.literal "+")))))

theorem sameShape_labelled (hM : ∀ m, M m m) {m n : String} (h : M m n) (v : String → α)
    (w : String → β) : SameShape M (labelled m v) (labelled n w) := by
  have hleaf : ∀ text, SameShape M (.leaf (.literal text)) (.leaf (.literal text)) := by
    refine fun text => .leaf fun input => ⟨?_, rfl⟩
    cases (Parser.literal text).parse input |>.value with
    | success a rest => exact .success a a rest
    | failure f => exact .failure f.offset (hM f.message)
  exact .report {} (.withError h (.or (.map _ _ (.seq (hleaf _) (hleaf _))) (.map _ _ (hleaf _))))

/-- Whether the value is a text or a length, and whatever is said, the second letter is missing
after two bytes; if the same is said, the same is reported. -/
theorem same_course_labelled :
    SameShape (fun _ _ => True) (labelled "no letters" id) (labelled "nothing" String.length) ∧
      Parsed.Alike (fun _ _ => True) (.failure ⟨2, "no letters"⟩ : Parsed String)
        ((labelled "nothing" String.length).parser.parse "éa".toList).value ∧
      SameShape Eq (labelled "nothing" id) (labelled "nothing" String.length) ∧
      ((labelled "nothing" String.length).parser.parse "éa".toList).log =
        [.fellBack, .reporting 2, .printed "nothing (at offset 2)\n  | éa\n  |  ^"] := by
  have hany : SameShape (fun _ _ => True) (labelled "no letters" id)
      (labelled "nothing" String.length) := sameShape_labelled (fun _ => trivial) trivial _ _
  have hequal : SameShape Eq (labelled "nothing" id) (labelled "nothing" String.length) :=
    sameShape_labelled (fun _ => rfl) rfl _ _
  have hvalue : ((labelled "no letters" id).parser.parse "éa".toList).value =
      .failure ⟨2, "no letters"⟩ := by rfl
  have hlog : ((labelled "nothing" id).parser.parse "éa".toList).log =
      [.fellBack, .reporting 2, .printed "nothing (at offset 2)\n  | éa\n  |  ^"] := by rfl
  obtain ⟨-, -, -, heq⟩ := hequal.same_course "éa".toList
  exact ⟨hany, hvalue ▸ (hany.same_course "éa".toList).1, hequal,
    (heq fun _ _ h => h).2.symm.trans hlog⟩

end Tree

end TextParser
