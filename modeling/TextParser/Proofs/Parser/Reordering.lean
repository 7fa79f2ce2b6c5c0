import Mathlib.Data.List.Find
import TextParser.Proofs.Parser.Choice

/-!
The order of alternatives. One alternative decides the result of a choice: the first that succeeds,
or else the first of all. Main statement: where at most one can succeed, the others may stand in any
order behind the first, and what comes too late to decide may be left out.

    alternatives     p ✗   q ✓   r ✗   q ✓        decided by q
    reordered        q ✓   r ✗   p ✗   q ✓        decided by q
    none succeeds    p ✗   q ✗                    decided by p, and by q once that is first
-/

universe u

namespace TextParser.Parser

variable {α : Type u} {input : Text} {first a : Parser α} {more before after : List (Parser α)}

/-! ### The alternative that decides -/

/-- Whether `p` succeeds on `input`. -/
def succeedsOn (input : Text) (p : Parser α) : Bool := (p.parse input).value.isSuccess

/-- The first of some alternatives that succeeds, or else the first of them. -/
def deciding (input : Text) (first : Parser α) (more : List (Parser α)) : Parser α :=
  ((first :: more).find? (succeedsOn input)).getD first

theorem not_succeedsOn_of_isFailure (h : (a.parse input).value.isFailure) :
    ¬ succeedsOn input a :=
  Parsed.not_isSuccess_of_isFailure h

/-- The result of a choice is that of the alternative that decides. -/
theorem value_foldl_orElse (first : Parser α) (more : List (Parser α)) (input : Text) :
    ((more.foldl orElse first).parse input).value =
      ((deciding input first more).parse input).value := by
  rw [deciding]
  rcases all_fail_or_first_success input (first :: more) with
    hall | ⟨before, q, after, hps, hbefore, hq⟩
  · have hnone : (first :: more).find? (succeedsOn input) = none :=
      List.find?_eq_none.2 fun r hr => not_succeedsOn_of_isFailure (hall r hr)
    rw [parse_foldl_orElse_of_failure more hall, hnone, Option.getD_none]
  · obtain ⟨v, rest, hv⟩ := Parsed.isSuccess_iff.1 hq
    have hfound : succeedsOn input q := hq
    have hskipped : before.find? (succeedsOn input) = none :=
      List.find?_eq_none.2 fun r hr => not_succeedsOn_of_isFailure (hbefore r hr)
    rw [parse_foldl_orElse_of_success hv before hps hbefore, hps, List.find?_append, hskipped,
      Option.none_or, List.find?_cons_of_pos hfound, Option.getD_some, hv]

/-- If the choice succeeds, it does so by an alternative that was found. -/
theorem value_foldl_orElse_eq_success_iff {v : α} {rest : Text} :
    ((more.foldl orElse first).parse input).value = .success v rest ↔
      ∃ q, (first :: more).find? (succeedsOn input) = some q ∧
        (q.parse input).value = .success v rest := by
  rw [value_foldl_orElse, deciding]
  cases hfind : (first :: more).find? (succeedsOn input) with
  | some q => simp
  | none =>
    have hfirst : ¬ succeedsOn input first :=
      List.find?_eq_none.1 hfind first List.mem_cons_self
    constructor
    · intro h
      exact absurd (Parsed.isSuccess_iff.2 ⟨v, rest, h⟩) hfirst
    · rintro ⟨q, ⟨⟩, -⟩

/-! ### Leaving alternatives out -/

/-- An alternative that succeeds only where one in front of it does is never found. -/
theorem find?_append_cons_of_late (h : succeedsOn input a → ∃ r ∈ before, succeedsOn input r)
    (after : List (Parser α)) :
    (before ++ a :: after).find? (succeedsOn input) =
      (before ++ after).find? (succeedsOn input) := by
  rw [List.find?_append, List.find?_append]
  by_cases ha : succeedsOn input a
  · obtain ⟨r, hr, hsuccess⟩ := h ha
    obtain ⟨q, hq⟩ := Option.isSome_iff_exists.1 (List.find?_isSome.2 ⟨r, hr, hsuccess⟩)
    rw [hq, Option.some_or, Option.some_or]
  · rw [List.find?_cons_of_neg ha]

theorem exists_of_mem_or_isFailure (h : a ∈ before ∨ (a.parse input).value.isFailure) :
    succeedsOn input a → ∃ r ∈ before, succeedsOn input r := by
  intro ha
  rcases h with hmem | hfail
  · exact ⟨a, hmem, ha⟩
  · exact absurd ha (not_succeedsOn_of_isFailure hfail)

/-! ### Choices -/

/-- Where at most one alternative succeeds, any order of them finds the same success, and any order
with the same one in front fails alike. Whatever succeeds, an alternative may be left out if it
stands further to the front as well, or if it is not the first and fails. -/
theorem choice_reordered (first : Parser α) (more : List (Parser α)) :
    ∃ p, (choice (first :: more)).value = .ok p ∧
      (∀ others, others.Perm (first :: more) → ∃ q, (choice others).value = .ok q ∧
        ∀ input, {r ∈ first :: more | succeedsOn input r}.Subsingleton →
          (∀ v rest, (q.parse input).value = .success v rest ↔
            (p.parse input).value = .success v rest) ∧
          (others.head? = some first → (q.parse input).value = (p.parse input).value)) ∧
      ∀ before a after, first :: more = before ++ a :: after → before ≠ [] →
        ∃ q, (choice (before ++ after)).value = .ok q ∧
          ∀ input, a ∈ before ∨ (a.parse input).value.isFailure →
            (q.parse input).value = (p.parse input).value := by
  refine ⟨more.foldl orElse first, rfl, ?_, ?_⟩
  · intro others hperm
    cases others with
    | nil => exact absurd hperm.nil_eq (List.cons_ne_nil first more).symm
    | cons head others =>
      refine ⟨others.foldl orElse head, rfl, fun input hone => ?_⟩
      have hfind : (head :: others).find? (succeedsOn input) =
          (first :: more).find? (succeedsOn input) :=
        (List.find?_eq_find?_of_perm hperm.symm hone).symm
      constructor
      · intro v rest
        rw [value_foldl_orElse_eq_success_iff, value_foldl_orElse_eq_success_iff, hfind]
      · intro hhead
        obtain rfl : head = first := Option.some.inj hhead
        rw [value_foldl_orElse, value_foldl_orElse, deciding, deciding, hfind]
  · intro before a after hps hbefore
    cases before with
    | nil => exact absurd rfl hbefore
    | cons head before =>
      rw [List.cons_append] at hps
      obtain ⟨rfl, rfl⟩ := List.cons.inj hps
      refine ⟨(before ++ after).foldl orElse first, rfl, fun input h => ?_⟩
      have hfind := find?_append_cons_of_late (exists_of_mem_or_isFailure h) after
      rw [List.cons_append, List.cons_append] at hfind
      rw [value_foldl_orElse, value_foldl_orElse, deciding, deciding, hfind]

-- With another alternative in front, a choice that fails says something else.
example :
    (((literal "a").orElse (literal "b")).parse "c".toList).value = .failure ⟨0, "expected a"⟩ ∧
    (((literal "b").orElse (literal "a")).parse "c".toList).value = .failure ⟨0, "expected b"⟩ :=
  ⟨rfl, rfl⟩

end TextParser.Parser
