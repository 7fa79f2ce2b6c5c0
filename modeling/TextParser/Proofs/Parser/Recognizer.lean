import TextParser.Proofs.Parser.Contract
import TextParser.Proofs.Regex.Split
import TextParser.Words

/-!
Recognizers keep the contract: a match at the front cuts the text in two, and a mismatch is told
at the front.
-/

namespace TextParser.Parser

variable {regex : Regex} {message value : String} {input text rest : Text} {f : Failure}

/-! ### Runs -/

theorem parse_ofRegex_of_match (message : String) (h : regex.find? input = some ⟨[], text, rest⟩) :
    (ofRegex regex message).parse input = ⟨.success (String.ofList text) rest, []⟩ := by
  simp only [ofRegex, h, Logged.pure_eq]

theorem parse_ofRegex_of_no_match (message : String)
    (h : ∀ text rest, regex.find? input ≠ some ⟨[], text, rest⟩) :
    (ofRegex regex message).parse input = ⟨.failure ⟨0, message⟩, []⟩ := by
  simp only [ofRegex]
  rfl

/-- A recognizer succeeds with a match that skips nothing. -/
theorem ofRegex_eq_success_iff :
    ((ofRegex regex message).parse input).value = .success value rest ↔
      ∃ text, regex.find? input = some ⟨[], text, rest⟩ ∧ String.ofList text = value := by
  by_cases h : ∃ text middle, regex.find? input = some ⟨[], text, middle⟩
  · obtain ⟨text, middle, h⟩ := h
    rw [parse_ofRegex_of_match message h, h]
    constructor
    · rintro ⟨⟩
      exact ⟨text, rfl, rfl⟩
    · rintro ⟨_, ⟨⟩, rfl⟩
      rfl
  · have hno : ∀ text middle, regex.find? input ≠ some ⟨[], text, middle⟩ :=
      fun text middle hm => h ⟨text, middle, hm⟩
    rw [parse_ofRegex_of_no_match message hno]
    constructor
    · rintro ⟨⟩
    · rintro ⟨text, ht, -⟩
      exact absurd ht (hno text rest)

/-- A recognizer fails at the front, with its message. -/
theorem ofRegex_eq_failure (h : ((ofRegex regex message).parse input).value = .failure f) :
    f = ⟨0, message⟩ := by
  by_cases hm : ∃ text middle, regex.find? input = some ⟨[], text, middle⟩
  · obtain ⟨text, middle, hm⟩ := hm
    rw [parse_ofRegex_of_match message hm] at h
    cases h
  · rw [parse_ofRegex_of_no_match message fun text middle ht => hm ⟨text, middle, ht⟩] at h
    exact (Parsed.failure.inj h).symm

/-! ### Building -/

section Building

variable {r : Regex.Resources} {expr : Text} {pattern : String} {meaning : Regex.Pattern}

theorem compile_of_read (hlimit : r.exceeded? expr = none)
    (hread : Regex.readPattern r.properties expr = .ok meaning) :
    Regex.compile r expr = .ok (.ofPattern meaning) := by
  rw [Regex.compile, hlimit, hread]

theorem compile_of_exceeded {limit : Regex.Limit} (hlimit : r.exceeded? expr = some limit) :
    Regex.compile r expr = .error (.exceeds expr limit) := by
  rw [Regex.compile, hlimit]

theorem compile_eq_ok (h : Regex.compile r expr = .ok regex) :
    ∃ meaning, Regex.readPattern r.properties expr = .ok meaning ∧ regex = .ofPattern meaning := by
  rw [Regex.compile] at h
  split at h
  · cases h
  · split at h <;> cases h
    exact ⟨_, ‹_›, rfl⟩

theorem matchingWithError_of_ok (h : Regex.compile r (anchoredPattern pattern) = .ok regex)
    (message : String) :
    matchingWithError r pattern message = ⟨.ok (ofRegex regex message), [.compiled pattern]⟩ := by
  rw [matchingWithError, h]
  rfl

theorem matchingWithError_of_error {reason : Regex.Error}
    (h : Regex.compile r (anchoredPattern pattern) = .error reason) (message : String) :
    matchingWithError r pattern message = ⟨.error (.invalidPattern pattern reason), []⟩ := by
  rw [matchingWithError, h]
  rfl

theorem matchingWithError_eq_ok {p : Parser String}
    (h : (matchingWithError r pattern message).value = .ok p) :
    ∃ regex, Regex.compile r (anchoredPattern pattern) = .ok regex ∧
      p = ofRegex regex message := by
  cases hregex : Regex.compile r (anchoredPattern pattern) with
  | error reason =>
    rw [matchingWithError_of_error hregex] at h
    cases h
  | ok regex =>
    rw [matchingWithError_of_ok hregex] at h
    cases h
    exact ⟨regex, rfl, rfl⟩

end Building

/-! ### The contract -/

namespace KeepsContract

theorem ofRegex (regex : Regex) (message : String) :
    (Parser.ofRegex regex message).KeepsContract := by
  constructor
  · intro input value rest h
    obtain ⟨text, ht, -⟩ := ofRegex_eq_success_iff.1 h
    exact ⟨text, (Regex.find?_eq_append ht).symm⟩
  · intro input f h
    rw [ofRegex_eq_failure h]
    exact input.isBoundary_zero

theorem builtin (pattern message : String) : (Words.builtin pattern message).KeepsContract := by
  rw [Words.builtin]
  split
  · obtain ⟨regex, -, rfl⟩ := matchingWithError_eq_ok ‹_›
    exact ofRegex regex message
  · exact fail_zero message

end KeepsContract

end TextParser.Parser
