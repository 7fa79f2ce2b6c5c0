import TextParser.Proofs.Parser.Run

/-!
How functions on values and messages of failures pass through combinations. A function goes into
both alternatives, a message into both parts of a sequence and both alternatives; of two messages
the outer one stays, of two functions the composition.

    (p or q) >> f            p >> f or q >> f
    (p, q) with error m      p with error m, q with error m
-/

universe u v w

namespace TextParser

namespace Parsed

variable {α : Type u} {β : Type v} {γ : Type w}

theorem map_map (p : Parsed α) (g : α → β) (f : β → γ) : (p.map g).map f = p.map (f ∘ g) := by
  cases p <;> rfl

theorem map_mapFailure (p : Parsed α) (f : α → β) (h : Failure → Failure) :
    (p.mapFailure h).map f = (p.map f).mapFailure h := by
  cases p <;> rfl

/-- A failure is moved on whatever is said of it. -/
theorem mapFailure_withMessage_shifted (p : Parsed α) (message : String) (consumed : Nat) :
    (p.shifted consumed).mapFailure (·.withMessage message) =
      (p.mapFailure (·.withMessage message)).shifted consumed := by
  cases p <;> rfl

end Parsed

namespace Parser

variable {α β γ : Type u}

/-! ### Functions on values -/

theorem map_map (p : Parser α) (g : α → β) (f : β → γ) : (p.map g).map f = p.map (f ∘ g) := by
  refine eq_of_parse_eq fun input => ?_
  rw [parse_map, parse_map, parse_map, Parsed.map_map]

/-- A function on the value of an alternation is applied in the alternative that succeeds. -/
theorem map_orElse (p q : Parser α) (f : α → β) :
    (p.orElse q).map f = (p.map f).orElse (q.map f) := by
  refine eq_of_parse_eq fun input => ?_
  rw [parse_map]
  cases hp : (p.parse input).value with
  | success a rest =>
    have hmap : ((p.map f).parse input).value = .success (f a) rest := by
      rw [parse_map, hp, Parsed.map_success]
    rw [parse_orElse_of_success q hp, parse_orElse_of_success (q.map f) hmap, parse_map]
  | failure e =>
    have hmap : ((p.map f).parse input).value = .failure e := by
      rw [parse_map, hp, Parsed.map_failure]
    rw [parse_orElse_of_failure q hp, parse_orElse_of_failure (q.map f) hmap, parse_map, parse_map]
    cases (q.parse input).value <;> rfl

theorem map_withError (p : Parser α) (f : α → β) (message : String) :
    (p.withError message).map f = (p.map f).withError message := by
  refine eq_of_parse_eq fun input => ?_
  rw [parse_map, parse_withError, parse_withError, parse_map, Parsed.map_mapFailure]

/-! ### Messages -/

/-- A message for a sequence is one for the part that fails. -/
theorem withError_andThen (p : Parser α) (q : Parser β) (message : String) :
    (p.andThen q).withError message = (p.withError message).andThen (q.withError message) := by
  refine eq_of_parse_eq fun input => ?_
  rw [parse_withError]
  cases hp : (p.parse input).value with
  | success a rest =>
    have hfront : ((p.withError message).parse input).value = .success a rest :=
      withError_eq_success_iff.2 hp
    rw [parse_andThen_of_success q hp, parse_andThen_of_success _ hfront, parse_withError,
      parse_withError, Parsed.mapFailure_withMessage_shifted, Parsed.map_mapFailure]
  | failure e =>
    have hfront : ((p.withError message).parse input).value = .failure (e.withMessage message) :=
      withError_eq_failure_iff.2 ⟨e, hp, rfl⟩
    rw [parse_andThen_of_failure q hp, parse_andThen_of_failure _ hfront, parse_withError]
    rfl

/-- A message for an alternation is one for both alternatives; that of the second is not told. -/
theorem withError_orElse (p q : Parser α) (message : String) :
    (p.orElse q).withError message = (p.withError message).orElse (q.withError message) := by
  refine eq_of_parse_eq fun input => ?_
  rw [parse_withError]
  cases hp : (p.parse input).value with
  | success a rest =>
    have hfront : ((p.withError message).parse input).value = .success a rest :=
      withError_eq_success_iff.2 hp
    rw [parse_orElse_of_success q hp, parse_orElse_of_success _ hfront, parse_withError]
  | failure e =>
    have hfront : ((p.withError message).parse input).value = .failure (e.withMessage message) :=
      withError_eq_failure_iff.2 ⟨e, hp, rfl⟩
    rw [parse_orElse_of_failure q hp, parse_orElse_of_failure _ hfront, parse_withError,
      parse_withError]
    cases (q.parse input).value <;> rfl

/-- Of two messages the outer one is told. -/
theorem withError_withError (p : Parser α) (inner message : String) :
    (p.withError inner).withError message = p.withError message := by
  refine eq_of_parse_eq fun input => ?_
  rw [parse_withError, parse_withError, parse_withError]
  cases (p.parse input).value <;> rfl

end Parser

end TextParser
