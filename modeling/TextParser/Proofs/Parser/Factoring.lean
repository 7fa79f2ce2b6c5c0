import Mathlib.Algebra.BigOperators.Group.List.Basic
import TextParser.Proofs.Parser.Choice

/-!
A first part that all alternatives of a choice have in common. Main statement: it can be taken out
to stand in front of the choice, and only the number of its runs changes.

    (a b) or (a c) or (a d)      a ↩ a ↩ a      runs of a up to the first success
    a, then b or c or d          a              one run

If `a` fails, all alternatives fail as it does. If it succeeds, all of them go on with the same rest
and move their failures on by the same distance, so the first failure stays the first one.
-/

universe u

namespace TextParser.Parser

variable {α β : Type u} {a : Parser α} {b : Parser β} {input rest : Text} {v : α} {f : Failure}

/-! ### Alternatives with the same first part -/

/-- The alternatives with `a` put in front of each. -/
def each (a : Parser α) (bs : List (Parser β)) : List (Parser (α × β)) := bs.map a.andThen

/-- A sequence asks no more of its second part than the result on what is left. -/
theorem value_andThen_congr (ha : (a.parse input).value = .success v rest) {p : Parser β}
    (hp : (p.parse rest).value = (b.parse rest).value) :
    ((a.andThen p).parse input).value = ((a.andThen b).parse input).value := by
  rw [parse_andThen_of_success p ha, parse_andThen_of_success b ha, hp]

theorem isFailure_each_of_failure (ha : (a.parse input).value = .failure f)
    (bs : List (Parser β)) : ∀ q ∈ each a bs, (q.parse input).value.isFailure := by
  intro q hq
  obtain ⟨b, -, rfl⟩ := List.mem_map.1 hq
  rw [parse_andThen_of_failure b ha]
  rfl

theorem isFailure_each_of_success (ha : (a.parse input).value = .success v rest)
    {bs : List (Parser β)} (hbs : ∀ b ∈ bs, (b.parse rest).value.isFailure) :
    ∀ q ∈ each a bs, (q.parse input).value.isFailure := by
  intro q hq
  obtain ⟨b, hb, rfl⟩ := List.mem_map.1 hq
  obtain ⟨e, he⟩ := Parsed.isFailure_iff.1 (hbs b hb)
  rw [parse_andThen_of_success b ha, he]
  rfl

/-! ### Runs of the first part -/

theorem fallbacks_andThen_of_success (ha : (a.parse input).value = .success v rest)
    (b : Parser β) : ((a.andThen b).parse input).log.fallbacks =
      (a.parse input).log.fallbacks + (b.parse rest).log.fallbacks := by
  rw [parse_andThen_of_success b ha, Log.fallbacks_append]

theorem fallbacks_andThen_of_failure (ha : (a.parse input).value = .failure f) (b : Parser β) :
    ((a.andThen b).parse input).log.fallbacks = (a.parse input).log.fallbacks := by
  rw [parse_andThen_of_failure b ha]

/-- Trying the alternatives runs `a` once for each of them. -/
theorem fallbacks_triedLog_each_of_success (ha : (a.parse input).value = .success v rest)
    {bs : List (Parser β)} (hbs : bs ≠ []) :
    (triedLog input (each a bs)).fallbacks =
      bs.length * (a.parse input).log.fallbacks + (triedLog rest bs).fallbacks := by
  have hne : each a bs ≠ [] := by simpa [each] using hbs
  have hsum : ((each a bs).map fun q => (q.parse input).log.fallbacks).sum =
      bs.length * (a.parse input).log.fallbacks +
        (bs.map fun b => (b.parse rest).log.fallbacks).sum := by
    simp [each, Function.comp_def, fallbacks_andThen_of_success ha]
  rw [fallbacks_triedLog input hne, fallbacks_triedLog rest hbs, hsum, each, List.length_map]
  omega

theorem fallbacks_triedLog_each_of_failure (ha : (a.parse input).value = .failure f)
    {bs : List (Parser β)} (hbs : bs ≠ []) :
    (triedLog input (each a bs)).fallbacks =
      bs.length * (a.parse input).log.fallbacks + (bs.length - 1) := by
  have hne : each a bs ≠ [] := by simpa [each] using hbs
  have hsum : ((each a bs).map fun q => (q.parse input).log.fallbacks).sum =
      bs.length * (a.parse input).log.fallbacks := by
    simp [each, Function.comp_def, fallbacks_andThen_of_failure ha]
  rw [fallbacks_triedLog input hne, hsum, each, List.length_map, Nat.add_comm]

/-! ### Taking the first part out -/

variable {first : Parser β} {more : List (Parser β)}

/-- If the first part fails, the choice fails with it after it has run for every alternative. -/
theorem parse_foldl_each_of_failure (ha : (a.parse input).value = .failure f) :
    ((each a more).foldl orElse (a.andThen first)).parse input =
      ⟨.failure f, triedLog input (each a (first :: more))⟩ := by
  have hrun := parse_foldl_orElse_of_failure _ (isFailure_each_of_failure ha (first :: more))
  rwa [parse_andThen_of_failure first ha] at hrun

/-- If the first part succeeds and the alternatives fail on its rest, the first failure is told. -/
theorem parse_foldl_each_of_all_fail (ha : (a.parse input).value = .success v rest)
    (hall : ∀ r ∈ first :: more, (r.parse rest).value.isFailure) :
    ((each a more).foldl orElse (a.andThen first)).parse input =
      ⟨((a.andThen first).parse input).value, triedLog input (each a (first :: more))⟩ :=
  parse_foldl_orElse_of_failure _ (isFailure_each_of_success ha hall)

/-- If an alternative succeeds on the rest, it is the first to succeed in either place. -/
theorem parse_foldl_each_of_first_success (ha : (a.parse input).value = .success v rest)
    {before after : List (Parser β)} (hbs : first :: more = before ++ b :: after)
    (hbefore : ∀ r ∈ before, (r.parse rest).value.isFailure)
    (hb : (b.parse rest).value.isSuccess) :
    ((each a more).foldl orElse (a.andThen first)).parse input =
        ⟨((a.andThen b).parse input).value, triedLog input (each a (before ++ [b]))⟩ ∧
      (more.foldl orElse first).parse rest =
        ⟨(b.parse rest).value, triedLog rest (before ++ [b])⟩ := by
  obtain ⟨w, left, hw⟩ := Parsed.isSuccess_iff.1 hb
  have hab : ((a.andThen b).parse input).value = .success (v, w) left :=
    andThen_eq_success_iff.2 ⟨rest, ha, hw⟩
  have hlist : a.andThen first :: each a more = each a before ++ a.andThen b :: each a after := by
    simpa [each] using congrArg (each a) hbs
  have hfactored := parse_foldl_orElse_of_success hab (each a before) hlist
    (isFailure_each_of_success ha hbefore)
  rw [hfactored, parse_foldl_orElse_of_success hw before hbs hbefore, hab, hw]
  simp [each]

/-- A first part that all alternatives begin with may be taken out in front of the choice: the
result is the same. Left in, it is run again for every alternative that is tried after the first. -/
theorem choice_factored (a : Parser α) (first : Parser β) (more : List (Parser β)) :
    ∃ p q, (choice (first :: more)).value = .ok p ∧
      (choice ((first :: more).map a.andThen)).value = .ok q ∧
      ∀ input, ((a.andThen p).parse input).value = (q.parse input).value ∧
        (∀ v rest, (a.parse input).value = .success v rest →
          (∀ before b after, first :: more = before ++ b :: after →
            (∀ r ∈ before, (r.parse rest).value.isFailure) → (b.parse rest).value.isSuccess →
            (q.parse input).log.fallbacks = ((a.andThen p).parse input).log.fallbacks +
              before.length * (a.parse input).log.fallbacks) ∧
          ((∀ r ∈ first :: more, (r.parse rest).value.isFailure) →
            (q.parse input).log.fallbacks = ((a.andThen p).parse input).log.fallbacks +
              more.length * (a.parse input).log.fallbacks)) ∧
        ∀ f, (a.parse input).value = .failure f →
          (q.parse input).log.fallbacks =
            (more.length + 1) * (a.parse input).log.fallbacks + more.length ∧
          ((a.andThen p).parse input).log.fallbacks = (a.parse input).log.fallbacks := by
  refine ⟨more.foldl orElse first, (each a more).foldl orElse (a.andThen first), rfl, rfl, ?_⟩
  intro input
  refine ⟨?_, ?_, ?_⟩
  · cases ha : (a.parse input).value with
    | failure f => rw [parse_andThen_of_failure _ ha, parse_foldl_each_of_failure ha]
    | success v rest =>
      rcases all_fail_or_first_success rest (first :: more) with
        hall | ⟨before, b, after, hbs, hbefore, hb⟩
      · have hp := parse_foldl_orElse_of_failure more hall
        rw [parse_foldl_each_of_all_fail ha hall, value_andThen_congr ha (b := first) (by rw [hp])]
      · obtain ⟨hq, hp⟩ := parse_foldl_each_of_first_success ha hbs hbefore hb
        rw [hq, value_andThen_congr ha (b := b) (by rw [hp])]
  · intro v rest ha
    constructor
    · intro before b after hbs hbefore hb
      obtain ⟨hq, hp⟩ := parse_foldl_each_of_first_success ha hbs hbefore hb
      rw [fallbacks_andThen_of_success ha, hq, hp,
        fallbacks_triedLog_each_of_success ha (by simp), List.length_append, List.length_singleton,
        Nat.succ_mul]
      dsimp only
      omega
    · intro hall
      rw [fallbacks_andThen_of_success ha, parse_foldl_each_of_all_fail ha hall,
        parse_foldl_orElse_of_failure more hall,
        fallbacks_triedLog_each_of_success ha (List.cons_ne_nil _ _), List.length_cons,
        Nat.succ_mul]
      dsimp only
      omega
  · intro f ha
    rw [parse_foldl_each_of_failure ha, fallbacks_andThen_of_failure ha,
      fallbacks_triedLog_each_of_failure ha (List.cons_ne_nil _ _)]
    exact ⟨rfl, rfl⟩

end TextParser.Parser
