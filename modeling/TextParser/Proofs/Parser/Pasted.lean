import TextParser.Proofs.Parser.Matching
import TextParser.Proofs.Regex.Pasted

/-!
Recognizers built from a pattern, which is pasted into `^(?:…)`, against recognizers built from the
same pattern by itself.

    a|b            both are built, and agree on every text
    (?x)a#b        built by itself only: pasted, the parenthesis falls into the comment
    a)|(?:b        built pasted only: its parentheses close and open the group around it

So whether a pattern is accepted when pasted is not quite whether it is accepted.
-/

namespace TextParser.Parser

open Regex (Pattern Resources readPattern)

variable {r : Resources} {pattern message : String} {p q : Parser String} {meaning : Pattern}

theorem anchoredPattern_eq (pattern : String) :
    anchoredPattern pattern = Regex.pasted pattern.toList := rfl

/-! ### Building -/

theorem matchingRegex_eq_ok (h : (matchingRegex r pattern message).value = .ok q) :
    ∃ meaning, readPattern r.properties pattern.toList = .ok meaning ∧
      q = ofRegex (.ofPattern meaning) message := by
  rw [matchingRegex] at h
  split at h
  · cases h
  · cases h
    obtain ⟨meaning, hread, rfl⟩ := compile_eq_ok ‹_›
    exact ⟨meaning, hread, rfl⟩

/-- A pattern accepted both ways has one meaning. -/
theorem matchingWithError_eq_ofRegex (hp : (matchingWithError r pattern message).value = .ok p)
    (hread : readPattern r.properties pattern.toList = .ok meaning) :
    p = ofRegex (.ofPattern meaning) message := by
  obtain ⟨regex, hcompile, rfl⟩ := matchingWithError_eq_ok hp
  obtain ⟨tied, htied, rfl⟩ := compile_eq_ok hcompile
  rw [anchoredPattern_eq] at htied
  rcases Regex.readPattern_pasted hread with ⟨hpasted, -⟩ | ⟨⟨reason, hrefused⟩, -⟩
  · rw [hpasted] at htied
    cases htied
    exact ofRegex_anchored meaning message
  · rw [hrefused] at htied
    cases htied

/-! ### Agreement -/

/-- Whether no recognizer is built for the pattern, which is told with the reason; nothing is
recorded of it then. -/
def RefusesPattern (r : Resources) (pattern : String) : Prop :=
  ∃ reason, matching r pattern = ⟨.error (.invalidPattern pattern reason), []⟩

/-- A pattern is refused or makes a recognizer. -/
theorem refusesPattern_or_matching (r : Resources) (pattern : String) :
    RefusesPattern r pattern ∨ ∃ p, matching r pattern = ⟨.ok p, [.compiled pattern]⟩ := by
  cases h : Regex.compile r (anchoredPattern pattern) with
  | error reason => exact .inl ⟨reason, matchingWithError_of_error h _⟩
  | ok regex => exact .inr ⟨_, matchingWithError_of_ok h _⟩

theorem not_refusesPattern_of_ok {regex : Regex}
    (h : Regex.compile r (anchoredPattern pattern) = .ok regex) : ¬ RefusesPattern r pattern := by
  rintro ⟨reason, hrefused⟩
  rw [matching, matchingWithError_of_ok h] at hrefused
  cases hrefused

/-- What cannot be read is refused, if not for a limit then for that. -/
theorem refusesPattern_of_read_error {reason : Regex.Refusal}
    (h : readPattern r.properties (anchoredPattern pattern) = .error reason) :
    RefusesPattern r pattern := by
  refine (refusesPattern_or_matching r pattern).resolve_right ?_
  rintro ⟨p, hp⟩
  obtain ⟨regex, hcompile, -⟩ := matchingWithError_eq_ok (congrArg Logged.value hp)
  obtain ⟨meaning, hread, -⟩ := compile_eq_ok hcompile
  rw [h] at hread
  cases hread

/-- Within the limits, a pattern is refused just when it cannot be read where it is pasted. -/
theorem refusesPattern_iff (hlimit : r.exceeded? (anchoredPattern pattern) = none) :
    RefusesPattern r pattern ↔
      ∃ reason, readPattern r.properties (anchoredPattern pattern) = .error reason := by
  constructor
  · intro hrefused
    cases hread : readPattern r.properties (anchoredPattern pattern) with
    | error reason => exact ⟨reason, rfl⟩
    | ok tied => exact absurd hrefused (not_refusesPattern_of_ok (compile_of_read hlimit hread))
  · rintro ⟨reason, h⟩
    exact refusesPattern_of_read_error h

/-- A pattern that is accepted by itself is refused, the limits aside, just when it ends in a
comment, so that a parenthesis behind it makes no difference. One that is refused by itself is
refused as well, unless all that is wrong with it is a parenthesis that closes no group. What is not
refused makes a recognizer. -/
theorem refusesPattern_iff_closer_accepted (r : Resources) (pattern : String) :
    (∀ meaning, readPattern r.properties pattern.toList = .ok meaning →
        r.exceeded? (anchoredPattern pattern) = none →
          (RefusesPattern r pattern ↔
            readPattern r.properties (pattern.toList ++ [')']) = .ok meaning)) ∧
      (∀ reason, readPattern r.properties pattern.toList = .error reason →
        reason.fault ≠ .groupUnopened → RefusesPattern r pattern) ∧
      (RefusesPattern r pattern ∨ ∃ p, matching r pattern = ⟨.ok p, [.compiled pattern]⟩) := by
  refine ⟨fun meaning hread hlimit => ?_, fun reason hread hreason => ?_,
    refusesPattern_or_matching r pattern⟩
  · rw [refusesPattern_iff hlimit, anchoredPattern_eq]
    rcases Regex.readPattern_pasted hread with ⟨hpasted, _, hcloser⟩ | ⟨hpasted, hcloser⟩
    · rw [hpasted, hcloser]
      exact ⟨by rintro ⟨_, ⟨⟩⟩, by rintro ⟨⟩⟩
    · exact ⟨fun _ => hcloser, fun _ => hpasted⟩
  · obtain ⟨reason, hpasted⟩ := Regex.readPattern_pasted_of_error hread hreason
    exact refusesPattern_of_read_error hpasted

/-- A pattern may be accepted by itself and refused pasted, or the other way round. -/
theorem refusesPattern_unlike_alone :
    ((∃ meaning, readPattern .standard "(?x)a#b".toList = .ok meaning) ∧
        RefusesPattern .standard "(?x)a#b") ∧
      (∃ reason, readPattern .standard "a)|(?:b".toList = .error reason) ∧
        ∃ p, matching .standard "a)|(?:b" = ⟨.ok p, [.compiled "a)|(?:b"]⟩ :=
  ⟨⟨⟨_, rfl⟩, _, rfl⟩, ⟨_, rfl⟩, _, rfl⟩

end TextParser.Parser
