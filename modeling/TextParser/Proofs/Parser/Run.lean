import TextParser.Tree

/-!
What each combination does in a run: its result and its record, told from those of its parts.

    p.andThen q     record of p, then of q on what p left
    p.orElse q      record of p, one fallback, record of q on the same text

The equations are stated once for a first part that succeeds and once for one that fails; what
follows about parsers is read off them, and no combination is unfolded again.
-/

universe u v

namespace TextParser

/-! ### Results -/

namespace Parsed

variable {α : Type u} {β : Type v}

@[simp] theorem map_success (f : α → β) (a : α) (rest : Text) :
    (success a rest).map f = success (f a) rest := rfl

@[simp] theorem map_failure (f : α → β) (e : Failure) : (failure e).map f = failure e := rfl

@[simp] theorem shifted_success (a : α) (rest : Text) (consumed : Nat) :
    (success a rest).shifted consumed = success a rest := rfl

@[simp] theorem shifted_failure (e : Failure) (consumed : Nat) :
    (failure e : Parsed α).shifted consumed = failure (e.shifted consumed) := rfl

@[simp] theorem orParse_success (e : Failure) (a : α) (rest : Text) :
    (failure e).orParse (success a rest) = success a rest := rfl

@[simp] theorem orParse_failure (e f : Failure) :
    (failure e : Parsed α).orParse (failure f) = failure e := rfl

@[simp] theorem map_id (p : Parsed α) : p.map id = p := by
  cases p <;> rfl

theorem map_eq_success_iff {f : α → β} {p : Parsed α} {b : β} {rest : Text} :
    p.map f = success b rest ↔ ∃ a, p = success a rest ∧ f a = b := by
  cases p with
  | success a middle =>
    constructor
    · rintro ⟨⟩
      exact ⟨a, rfl, rfl⟩
    · rintro ⟨_, ⟨⟩, rfl⟩
      rfl
  | failure e => simp

theorem map_eq_failure_iff {f : α → β} {p : Parsed α} {e : Failure} :
    p.map f = failure e ↔ p = failure e := by
  cases p <;> simp

theorem shifted_eq_success_iff {p : Parsed α} {consumed : Nat} {a : α} {rest : Text} :
    p.shifted consumed = success a rest ↔ p = success a rest := by
  cases p <;> simp

theorem shifted_eq_failure_iff {p : Parsed α} {consumed : Nat} {e : Failure} :
    p.shifted consumed = failure e ↔ ∃ f, p = failure f ∧ f.shifted consumed = e := by
  cases p <;> simp

theorem shifted_map (f : α → β) (p : Parsed α) (consumed : Nat) :
    (p.map f).shifted consumed = (p.shifted consumed).map f := by
  cases p <;> rfl

/-- Moving on twice is moving on by both distances. -/
theorem shifted_shifted (p : Parsed α) (m n : Nat) :
    (p.shifted m).shifted n = p.shifted (m + n) := by
  cases p with
  | success a rest => rfl
  | failure e => simp only [shifted_failure, Failure.shifted, Nat.add_assoc]

theorem isSuccess_iff {p : Parsed α} : p.isSuccess ↔ ∃ a rest, p = success a rest := by
  cases p <;> simp [isSuccess]

theorem isFailure_iff {p : Parsed α} : p.isFailure ↔ ∃ e, p = failure e := by
  cases p <;> simp [isFailure]

theorem not_isSuccess_of_isFailure {p : Parsed α} (h : p.isFailure) : ¬ p.isSuccess := by
  obtain ⟨e, rfl⟩ := isFailure_iff.1 h
  exact Bool.false_ne_true

end Parsed

/-! ### Records -/

theorem Logged.bind_eq {α β : Type u} (x : Logged α) (f : α → Logged β) :
    x >>= f = ⟨(f x.value).value, x.log ++ (f x.value).log⟩ := rfl

/-- The entry that holds a report of a failure in `input`. -/
def Report.entry (settings : Report.Settings) (input : Text) (f : Failure) : Event :=
  match settings.sink with
  | .standardError => .printed (Report.render input f settings.context)
  | .log => .warning (Report.render input f settings.context) f.offset

theorem Report.log_send (settings : Report.Settings) (input : Text) (f : Failure) :
    (Report.send.{u} settings input f).log =
      [.reporting f.offset, Report.entry settings input f] := by
  cases hs : settings.sink <;> simp [Report.send, Report.entry, Logged.bind_eq, Logged.record, hs]

/-! ### Building -/

/-- What goes into the two that are joined goes into all alternatives of a choice. -/
theorem Build.map_choice {α : Type u} {β : Type v} {either : α → α → α} {either' : β → β → β}
    {h : α → β} (hom : ∀ a b, h (either a b) = either' (h a) (h b)) (alternatives : List α) :
    (Build.choice either alternatives).map h = Build.choice either' (alternatives.map h) := by
  cases alternatives with
  | nil => rfl
  | cons first more =>
    have hfold : h (more.foldl either first) = (more.map h).foldl either' (h first) := by
      rw [List.foldl_map]
      exact (List.foldl_hom h fun a b => (hom a b).symm).symm
    have hbuilt : (Build.choice either (first :: more)).map h =
        ⟨.ok (h (more.foldl either first)), [.buildingChoice (more.length + 1)]⟩ := rfl
    rw [hbuilt, hfold, ← List.length_map h]
    rfl

namespace Parser

variable {α β : Type u} {input rest : Text} {a : α} {f : Failure}

/-- Parsers that run alike on every text are the same. -/
theorem eq_of_parse_eq {p q : Parser α} (h : ∀ input, p.parse input = q.parse input) : p = q := by
  cases p
  cases q
  exact congrArg mk (funext h)

/-! ### Sequences -/

theorem parse_map (g : α → β) (p : Parser α) (input : Text) :
    (p.map g).parse input = ⟨(p.parse input).value.map g, (p.parse input).log⟩ := by
  simp only [map, Logged.bind_eq, Logged.pure_eq, List.append_nil]

theorem parse_andThen_of_success {p : Parser α} (q : Parser β)
    (h : (p.parse input).value = .success a rest) :
    (p.andThen q).parse input =
      ⟨((q.parse rest).value.map (a, ·)).shifted (input.byteSize - rest.byteSize),
        (p.parse input).log ++ (q.parse rest).log⟩ := by
  simp only [andThen, Logged.bind_eq, h, Logged.pure_eq, List.append_nil]

theorem parse_andThen_of_failure {p : Parser α} (q : Parser β)
    (h : (p.parse input).value = .failure f) :
    (p.andThen q).parse input = ⟨.failure f, (p.parse input).log⟩ := by
  simp only [andThen, Logged.bind_eq, h, Logged.pure_eq, List.append_nil]

theorem andThen_eq_success_iff {p : Parser α} {q : Parser β} {c : α × β} :
    ((p.andThen q).parse input).value = .success c rest ↔
      ∃ middle, (p.parse input).value = .success c.1 middle ∧
        (q.parse middle).value = .success c.2 rest := by
  cases hp : (p.parse input).value with
  | success a middle =>
    rw [parse_andThen_of_success q hp]
    simp only [Parsed.shifted_eq_success_iff, Parsed.map_eq_success_iff, Parsed.success.injEq]
    constructor
    · rintro ⟨b, hq, rfl⟩
      exact ⟨middle, ⟨rfl, rfl⟩, hq⟩
    · rintro ⟨_, ⟨rfl, rfl⟩, hq⟩
      exact ⟨c.2, hq, rfl⟩
  | failure e =>
    rw [parse_andThen_of_failure q hp]
    simp

/-- A sequence fails with the failure of its first part, or with that of its second part moved on
by what the first one took. -/
theorem andThen_eq_failure_iff {p : Parser α} {q : Parser β} :
    ((p.andThen q).parse input).value = .failure f ↔
      (p.parse input).value = .failure f ∨
      ∃ a middle e, (p.parse input).value = .success a middle ∧
        (q.parse middle).value = .failure e ∧
        e.shifted (input.byteSize - middle.byteSize) = f := by
  cases hp : (p.parse input).value with
  | success a middle =>
    rw [parse_andThen_of_success q hp]
    simp only [Parsed.shifted_eq_failure_iff, Parsed.map_eq_failure_iff, Parsed.success.injEq]
    constructor
    · rintro ⟨e, hq, rfl⟩
      exact .inr ⟨a, middle, e, ⟨rfl, rfl⟩, hq, rfl⟩
    · rintro (h | ⟨_, _, e, ⟨rfl, rfl⟩, hq, rfl⟩)
      · cases h
      · exact ⟨e, hq, rfl⟩
  | failure e =>
    rw [parse_andThen_of_failure q hp]
    simp

/-! ### Alternatives -/

theorem parse_orElse_of_success {p : Parser α} (q : Parser α)
    (h : (p.parse input).value = .success a rest) :
    (p.orElse q).parse input = p.parse input := by
  simp only [orElse, Logged.bind_eq, h, Logged.pure_eq, List.append_nil]
  rw [← h]

theorem parse_orElse_of_failure {p : Parser α} (q : Parser α)
    (h : (p.parse input).value = .failure f) :
    (p.orElse q).parse input =
      ⟨(Parsed.failure f).orParse (q.parse input).value,
        (p.parse input).log ++ .fellBack :: (q.parse input).log⟩ := by
  simp only [orElse, Logged.bind_eq, h, Logged.pure_eq, Logged.record, List.append_nil,
    List.cons_append, List.nil_append]

theorem orElse_eq_success {p q : Parser α}
    (h : ((p.orElse q).parse input).value = .success a rest) :
    (p.parse input).value = .success a rest ∨ (q.parse input).value = .success a rest := by
  cases hp : (p.parse input).value with
  | success b middle =>
    rw [parse_orElse_of_success q hp, hp] at h
    exact .inl h
  | failure e =>
    rw [parse_orElse_of_failure q hp] at h
    cases hq : (q.parse input).value with
    | success b middle => rw [hq] at h; exact .inr h
    | failure g => rw [hq] at h; cases h

/-- An alternation fails only if both parts do, and then as the first one does. -/
theorem orElse_eq_failure_iff {p q : Parser α} :
    ((p.orElse q).parse input).value = .failure f ↔
      (p.parse input).value = .failure f ∧ ∃ e, (q.parse input).value = .failure e := by
  cases hp : (p.parse input).value with
  | success a middle =>
    rw [parse_orElse_of_success q hp, hp]
    simp
  | failure e =>
    rw [parse_orElse_of_failure q hp]
    cases hq : (q.parse input).value <;> simp

/-! ### Choices -/

theorem choice_cons (first : Parser α) (more : List (Parser α)) :
    choice (first :: more) =
      ⟨.ok (more.foldl orElse first), [.buildingChoice (more.length + 1)]⟩ := rfl

theorem choice_nil : choice ([] : List (Parser α)) = ⟨.error .emptyChoice, [.buildingChoice 0]⟩ :=
  rfl

theorem choice_eq_ok {ps : List (Parser α)} {p : Parser α} (h : (choice ps).value = .ok p) :
    ∃ first more, ps = first :: more ∧ p = more.foldl orElse first := by
  cases ps with
  | nil => rw [choice_nil] at h; cases h
  | cons first more =>
    rw [choice_cons] at h
    exact ⟨first, more, rfl, (Except.ok.inj h).symm⟩

/-- What all alternatives have, and two have together if each has it, the choice has. -/
theorem choice_of_orElse {P : Parser α → Prop}
    (hor : ∀ {p q : Parser α}, P p → P q → P (p.orElse q)) {ps : List (Parser α)} {p : Parser α}
    (hps : ∀ q ∈ ps, P q) (h : (choice ps).value = .ok p) : P p := by
  obtain ⟨first, more, rfl, rfl⟩ := choice_eq_ok h
  obtain ⟨hfirst, hmore⟩ := List.forall_mem_cons.1 hps
  clear h hps
  induction more generalizing first with
  | nil => exact hfirst
  | cons q more ih =>
    obtain ⟨hq, hlater⟩ := List.forall_mem_cons.1 hmore
    exact ih (first.orElse q) (hor hfirst hq) hlater

/-! ### Messages and reports -/

theorem parse_withError (message : String) (p : Parser α) (input : Text) :
    (p.withError message).parse input =
      ⟨(p.parse input).value.mapFailure (·.withMessage message), (p.parse input).log⟩ := by
  simp only [withError, Logged.bind_eq, Logged.pure_eq, List.append_nil]

theorem withError_eq_success_iff {message : String} {p : Parser α} :
    ((p.withError message).parse input).value = .success a rest ↔
      (p.parse input).value = .success a rest := by
  rw [parse_withError]
  cases (p.parse input).value <;> simp [Parsed.mapFailure]

theorem withError_eq_failure_iff {message : String} {p : Parser α} :
    ((p.withError message).parse input).value = .failure f ↔
      ∃ e, (p.parse input).value = .failure e ∧ e.withMessage message = f := by
  rw [parse_withError]
  cases (p.parse input).value <;> simp [Parsed.mapFailure]

theorem parse_reporting_of_success {p : Parser α} (settings : Report.Settings)
    (h : (p.parse input).value = .success a rest) :
    (p.reporting settings).parse input = p.parse input := by
  simp only [reporting, Logged.bind_eq, h, Logged.pure_eq, List.append_nil]
  rw [← h]

theorem parse_reporting_of_failure {p : Parser α} (settings : Report.Settings)
    (h : (p.parse input).value = .failure f) :
    (p.reporting settings).parse input =
      ⟨.failure f,
        (p.parse input).log ++ [.reporting f.offset, Report.entry settings input f]⟩ := by
  simp only [reporting, Logged.bind_eq, h, Logged.pure_eq, List.append_nil, Report.log_send]

/-- Reporting leaves the result as it is. -/
@[simp] theorem value_reporting (p : Parser α) (settings : Report.Settings) (input : Text) :
    ((p.reporting settings).parse input).value = (p.parse input).value := by
  cases h : (p.parse input).value with
  | success a rest => rw [parse_reporting_of_success settings h, h]
  | failure f => rw [parse_reporting_of_failure settings h]

end Parser

end TextParser
