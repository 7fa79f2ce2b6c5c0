import Mathlib.Algebra.GroupWithZero.Nat
import TextParser.Proofs.Parser.Run

/-!
Choices. Trying one parser or else another is associative, records included, so a choice is the same
however its alternatives are bracketed. Main statement: a run of it is the run of the first
alternative that succeeds, after those of the alternatives in front of it.

    alternatives     p      q      r      s          r the first to succeed
    record           p  ↩   q  ↩   r                 ↩ one fallback
-/

universe u

namespace TextParser

/-! ### Bracketings -/

/-- A way to put brackets around a list of operands that is not empty. -/
inductive Bracketing (α : Type u) where
  | one (a : α)
  | join (front back : Bracketing α)

namespace Bracketing

variable {α : Type u}

/-- The operands from left to right. -/
def leaves : Bracketing α → List α
  | one a => [a]
  | join front back => front.leaves ++ back.leaves

/-- Joins the operands by `op`, as the brackets say. -/
def combine (op : α → α → α) : Bracketing α → α
  | one a => a
  | join front back => op (front.combine op) (back.combine op)

theorem leaves_ne_nil : ∀ b : Bracketing α, b.leaves ≠ []
  | one a => List.cons_ne_nil a []
  | join front back => List.append_ne_nil_of_left_ne_nil front.leaves_ne_nil back.leaves

/-- An associative operation makes of every bracketing what it makes of the list from the left. -/
theorem combine_eq_foldl (op : α → α → α) [Std.Associative op] (b : Bracketing α) :
    ∀ {first : α} {more : List α}, b.leaves = first :: more →
      b.combine op = more.foldl op first := by
  induction b with
  | one a =>
    rintro first more ⟨⟩
    rfl
  | join front back ihf ihb =>
    intro first more h
    obtain ⟨f, fs, hf⟩ := List.exists_cons_of_ne_nil front.leaves_ne_nil
    obtain ⟨g, gs, hg⟩ := List.exists_cons_of_ne_nil back.leaves_ne_nil
    rw [leaves, hf, hg, List.cons_append] at h
    obtain ⟨rfl, rfl⟩ := List.cons.inj h
    rw [combine, ihf hf, ihb hg, List.foldl_append, List.foldl_cons, List.foldl_assoc]

end Bracketing

namespace Log

@[simp] theorem fallbacks_append (l m : Log) : fallbacks (l ++ m) = l.fallbacks + m.fallbacks :=
  List.count_append

@[simp] theorem fallbacks_fellBack : fallbacks [.fellBack] = 1 := rfl

/-- Fallbacks in records joined by one fallback each. -/
theorem fallbacks_intercalate : ∀ (log : Log) (logs : List Log),
    fallbacks ([.fellBack].intercalate (log :: logs)) =
      logs.length + ((log :: logs).map fallbacks).sum
  | log, [] => by rw [List.intercalate_singleton]; simp
  | log, l :: logs => by
    have hsum : ((log :: l :: logs).map fallbacks).sum =
        log.fallbacks + ((l :: logs).map fallbacks).sum := rfl
    rw [List.intercalate_cons_cons, fallbacks_append, fallbacks_append, fallbacks_fellBack,
      fallbacks_intercalate l logs, hsum, List.length_cons]
    omega

end Log

namespace Parser

variable {α : Type u}

/-! ### Associativity -/

/-- Trying `p`, else `q`, else `r` is the same run with either pair joined first. -/
theorem orElse_assoc (p q r : Parser α) : (p.orElse q).orElse r = p.orElse (q.orElse r) := by
  refine eq_of_parse_eq fun input => ?_
  cases hp : (p.parse input).value with
  | success a rest =>
    have hpq : ((p.orElse q).parse input).value = .success a rest := by
      rw [parse_orElse_of_success q hp, hp]
    rw [parse_orElse_of_success r hpq, parse_orElse_of_success q hp,
      parse_orElse_of_success (q.orElse r) hp]
  | failure e =>
    cases hq : (q.parse input).value with
    | success a rest =>
      have hpq : ((p.orElse q).parse input).value = .success a rest := by
        rw [parse_orElse_of_failure q hp, hq, Parsed.orParse_success]
      rw [parse_orElse_of_success r hpq, parse_orElse_of_failure q hp,
        parse_orElse_of_failure (q.orElse r) hp, parse_orElse_of_success r hq]
    | failure g =>
      have hpq : ((p.orElse q).parse input).value = .failure e := by
        rw [parse_orElse_of_failure q hp, hq, Parsed.orParse_failure]
      rw [parse_orElse_of_failure r hpq, parse_orElse_of_failure q hp,
        parse_orElse_of_failure (q.orElse r) hp, parse_orElse_of_failure r hq]
      cases (r.parse input).value <;> simp

instance : Std.Associative (@orElse α) := ⟨orElse_assoc⟩

/-- A choice falls back from its first alternative to the choice of the others. -/
theorem foldl_orElse_cons (first p : Parser α) (more : List (Parser α)) :
    (p :: more).foldl orElse first = first.orElse (more.foldl orElse p) := by
  rw [List.foldl_cons, List.foldl_assoc]

/-! ### Runs of a choice -/

/-- All parsers fail on a text, or one of them is the first to succeed. -/
theorem all_fail_or_first_success (input : Text) : ∀ ps : List (Parser α),
    (∀ p ∈ ps, (p.parse input).value.isFailure) ∨
      ∃ before q after, ps = before ++ q :: after ∧
        (∀ p ∈ before, (p.parse input).value.isFailure) ∧ (q.parse input).value.isSuccess
  | [] => .inl (List.forall_mem_nil _)
  | p :: ps => by
    cases hp : (p.parse input).value with
    | success v rest =>
      refine .inr ⟨[], p, ps, rfl, List.forall_mem_nil _, ?_⟩
      rw [hp]
      rfl
    | failure f =>
      have hfail : (p.parse input).value.isFailure := by rw [hp]; rfl
      rcases all_fail_or_first_success input ps with h | ⟨before, q, after, rfl, hbefore, hq⟩
      · exact .inl (List.forall_mem_cons.2 ⟨hfail, h⟩)
      · exact .inr ⟨p :: before, q, after, rfl, List.forall_mem_cons.2 ⟨hfail, hbefore⟩, hq⟩

/-- The records of runs on `input` of some parsers in turn, with one fallback from each to the
next. -/
def triedLog (input : Text) (ps : List (Parser α)) : Log :=
  [.fellBack].intercalate (ps.map fun p => (p.parse input).log)

theorem triedLog_singleton (input : Text) (p : Parser α) :
    triedLog input [p] = (p.parse input).log := by
  rw [triedLog, List.map_singleton, List.intercalate_singleton]

theorem triedLog_cons (input : Text) (p : Parser α) {ps : List (Parser α)} (h : ps ≠ []) :
    triedLog input (p :: ps) = (p.parse input).log ++ .fellBack :: triedLog input ps := by
  have hmap : ps.map (fun q => (q.parse input).log) ≠ [] := by simpa using h
  rw [triedLog, List.map_cons, List.intercalate_cons_of_ne_nil hmap, List.append_assoc]
  rfl

theorem fallbacks_triedLog (input : Text) {ps : List (Parser α)} (h : ps ≠ []) :
    (triedLog input ps).fallbacks =
      ps.length - 1 + (ps.map fun q => (q.parse input).log.fallbacks).sum := by
  obtain ⟨p, ps, rfl⟩ := List.exists_cons_of_ne_nil h
  rw [triedLog, List.map_cons, Log.fallbacks_intercalate]
  simp [Function.comp_def]

/-- The first success decides, and ends the trying. -/
theorem parse_foldl_orElse_of_success {input rest : Text} {a : α} {q : Parser α}
    {after : List (Parser α)} (hq : (q.parse input).value = .success a rest)
    (before : List (Parser α)) : ∀ {first : Parser α} {more : List (Parser α)},
    first :: more = before ++ q :: after → (∀ p ∈ before, (p.parse input).value.isFailure) →
    (more.foldl orElse first).parse input =
      ⟨.success a rest, triedLog input (before ++ [q])⟩ := by
  induction before with
  | nil =>
    rintro first more ⟨⟩ -
    rw [List.nil_append, triedLog_singleton, ← hq]
    cases after with
    | nil => rfl
    | cons p after => rw [foldl_orElse_cons, parse_orElse_of_success _ hq]
  | cons b before ih =>
    rintro first more h hfail
    obtain ⟨rfl, hmore⟩ := List.cons.inj h
    have hlater : more ≠ [] := by simp [hmore]
    obtain ⟨p, others, rfl⟩ := List.exists_cons_of_ne_nil hlater
    have hrun := ih hmore fun p hp => hfail p (List.mem_cons_of_mem _ hp)
    obtain ⟨e, hf⟩ := Parsed.isFailure_iff.1 (hfail first List.mem_cons_self)
    rw [foldl_orElse_cons, parse_orElse_of_failure _ hf, hrun, List.cons_append,
      triedLog_cons input first (by simp)]
    rfl

/-- If all alternatives fail, the first failure is told. -/
theorem parse_foldl_orElse_of_failure {input : Text} (more : List (Parser α)) :
    ∀ {first : Parser α}, (∀ p ∈ first :: more, (p.parse input).value.isFailure) →
    (more.foldl orElse first).parse input =
      ⟨(first.parse input).value, triedLog input (first :: more)⟩ := by
  induction more with
  | nil =>
    intro first _
    rw [triedLog_singleton]
    rfl
  | cons p more ih =>
    intro first hfail
    have hrun := ih fun q hq => hfail q (List.mem_cons_of_mem _ hq)
    obtain ⟨e, hf⟩ := Parsed.isFailure_iff.1 (hfail first List.mem_cons_self)
    obtain ⟨g, hp⟩ := Parsed.isFailure_iff.1 (hfail p (List.mem_cons_of_mem _ List.mem_cons_self))
    rw [foldl_orElse_cons, parse_orElse_of_failure _ hf, hrun, hp, hf,
      triedLog_cons input first (List.cons_ne_nil p more), Parsed.orParse_failure]

/-- A choice is every bracketing of its alternatives. It runs them in turn up to the first success,
with one fallback from each to the next, or else fails as the first one does. -/
theorem choice_eq_first_success (first : Parser α) (more : List (Parser α)) :
    ∃ p, (choice (first :: more)).value = .ok p ∧
      (∀ b : Bracketing (Parser α), b.leaves = first :: more → b.combine orElse = p) ∧
      ∀ input,
        (∀ before q after, first :: more = before ++ q :: after →
          (∀ r ∈ before, (r.parse input).value.isFailure) → (q.parse input).value.isSuccess →
          p.parse input = ⟨(q.parse input).value, triedLog input (before ++ [q])⟩ ∧
          (p.parse input).log.fallbacks = before.length +
            ((before ++ [q]).map fun r => (r.parse input).log.fallbacks).sum) ∧
        ((∀ r ∈ first :: more, (r.parse input).value.isFailure) →
          p.parse input = ⟨(first.parse input).value, triedLog input (first :: more)⟩ ∧
          (p.parse input).log.fallbacks = more.length +
            ((first :: more).map fun r => (r.parse input).log.fallbacks).sum) := by
  refine ⟨more.foldl orElse first, rfl, fun b hb => b.combine_eq_foldl orElse hb, ?_⟩
  intro input
  constructor
  · intro before q after hps hfail hq
    obtain ⟨a, rest, hv⟩ := Parsed.isSuccess_iff.1 hq
    have hrun := parse_foldl_orElse_of_success hv before hps hfail
    rw [hv]
    refine ⟨hrun, ?_⟩
    rw [hrun, fallbacks_triedLog input (by simp), List.length_append, List.length_singleton,
      Nat.add_sub_cancel]
  · intro hfail
    have hrun := parse_foldl_orElse_of_failure more hfail
    refine ⟨hrun, ?_⟩
    rw [hrun, fallbacks_triedLog input (List.cons_ne_nil first more), List.length_cons,
      Nat.add_sub_cancel]

end Parser

end TextParser
