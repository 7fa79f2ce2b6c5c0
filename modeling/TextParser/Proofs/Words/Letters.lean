import TextParser.Proofs.Parser.Matching
import TextParser.Proofs.Regex.Munch
import TextParser.Words

/-!
The word parsers, each by what it takes. Letters are those of ASCII, blanks are white space, and no
character is both.

    word            letters | …
    whitespace      blanks | …
    character       a letter | …
-/

namespace TextParser.Words

open Unicode (isWhiteSpace)
open Regex (Pattern CharSet readPattern)

variable {c : Char} {input t : Text}

/-! ### Letters and blanks -/

theorem isUpper_iff : c.isUpper ↔ 'A' ≤ c ∧ c ≤ 'Z' := decide_eq_true_iff

theorem isLower_iff : c.isLower ↔ 'a' ≤ c ∧ c ≤ 'z' :=
  (Bool.and_eq_true ..).to_iff.trans (and_congr decide_eq_true_iff decide_eq_true_iff)

theorem isAlpha_iff : c.isAlpha ↔ c.isUpper ∨ c.isLower := (Bool.or_eq_true ..).to_iff

theorem toNat_of_isAlpha (h : c.isAlpha) : 65 ≤ c.toNat ∧ c.toNat ≤ 122 := by
  rcases isAlpha_iff.1 h with h | h
  · obtain ⟨hfrom, hto⟩ := isUpper_iff.1 h
    exact ⟨hfrom, Nat.le_trans hto (by decide)⟩
  · obtain ⟨hfrom, hto⟩ := isLower_iff.1 h
    exact ⟨Nat.le_trans (by decide) hfrom, hto⟩

/-- White space is no letter. -/
theorem not_isWhiteSpace_of_isAlpha (h : c.isAlpha) : ¬ isWhiteSpace c := by
  have hrange := toNat_of_isAlpha h
  simp only [isWhiteSpace, Unicode.Run.holds, Unicode.whiteSpace, Unicode.Run.contains,
    List.any_cons, List.any_nil, Bool.or_eq_true, Bool.and_eq_true, decide_eq_true_eq,
    Bool.or_false]
  omega

theorem utf8Size_of_isAlpha (h : c.isAlpha) : c.utf8Size = 1 := by
  rw [Char.utf8Size_eq_one_iff, UInt32.le_iff_toNat_le]
  exact Nat.le_trans (toNat_of_isAlpha h).2 (by decide)

/-- The set `[a-zA-Z]`. -/
def letters : CharSet := .union (.range 'a' 'z') (.range 'A' 'Z')

theorem contains_lowerRange (c : Char) : (CharSet.range 'a' 'z').contains c = c.isLower := by
  rw [Bool.eq_iff_iff, isLower_iff, CharSet.contains, Bool.and_eq_true, decide_eq_true_iff,
    decide_eq_true_iff]

theorem contains_upperRange (c : Char) : (CharSet.range 'A' 'Z').contains c = c.isUpper := by
  rw [Bool.eq_iff_iff, isUpper_iff, CharSet.contains, Bool.and_eq_true, decide_eq_true_iff,
    decide_eq_true_iff]

theorem contains_letters : letters.contains = Char.isAlpha := by
  funext c
  rw [letters, CharSet.contains, contains_lowerRange, contains_upperRange, Bool.eq_iff_iff,
    isAlpha_iff, Bool.or_eq_true, or_comm]

theorem contains_space : CharSet.space.contains = isWhiteSpace := rfl

/-! ### The patterns -/

/-- The standard limits let a pattern pass whose program is not too big by the reckoning. -/
theorem exceeded?_standard {expr : Text} {p : Pattern} (h : readPattern .standard expr = .ok p)
    (hsize : Regex.Size.ofPattern p ≤ Regex.sizeLimit) :
    Regex.Resources.standard.exceeded? expr = none := by
  simp only [Regex.Resources.standard, h]
  exact if_pos hsize

theorem compile_anchored {pattern : String} {p : Pattern}
    (h : readPattern .standard (Parser.anchoredPattern pattern) = .ok (.seq (.look .textStart) p))
    (hsize : Regex.Size.ofPattern (.seq (.look .textStart) p) ≤ Regex.sizeLimit) :
    Regex.compile .standard (Parser.anchoredPattern pattern) =
      .ok (.ofPattern (.seq (.look .textStart) p)) :=
  Parser.compile_of_read (exceeded?_standard h hsize) h

/-- A parser of a known pattern takes the preferred match of it. -/
theorem builtin_eq {pattern message : String} {p : Pattern}
    (h : readPattern .standard (Parser.anchoredPattern pattern) = .ok (.seq (.look .textStart) p))
    (hsize : Regex.Size.ofPattern (.seq (.look .textStart) p) ≤ Regex.sizeLimit) :
    builtin pattern message = Parser.ofRegex (.ofPattern p) message := by
  rw [builtin, Parser.matchingWithError_of_ok (compile_anchored h hsize), Parser.ofRegex_anchored]

/-- It is the recognizer for that pattern. -/
theorem matchingWithError_eq_builtin {pattern message : String} {p : Pattern}
    (h : readPattern .standard (Parser.anchoredPattern pattern) = .ok (.seq (.look .textStart) p))
    (hsize : Regex.Size.ofPattern (.seq (.look .textStart) p) ≤ Regex.sizeLimit) :
    (Parser.matchingWithError .standard pattern message).value =
      .ok (builtin pattern message) := by
  rw [builtin, Parser.matchingWithError_of_ok (compile_anchored h hsize)]

theorem word_eq : word =
    Parser.ofRegex (.ofPattern (.times (.set letters) 1 none true)) wordError :=
  builtin_eq rfl (by decide)

theorem whitespace_eq : whitespace =
    Parser.ofRegex (.ofPattern (.times (.set .space) 1 none true)) (Parser.couldNotMatch "\\s+") :=
  builtin_eq rfl (by decide)

theorem optionalWhitespace_eq : optionalWhitespace =
    Parser.ofRegex (.ofPattern (.times (.set .space) 0 none true)) (Parser.couldNotMatch "\\s*") :=
  builtin_eq rfl (by decide)

theorem matching_optionalWhitespace :
    (Parser.matching .standard "\\s*").value = .ok optionalWhitespace :=
  matchingWithError_eq_builtin rfl (by decide)

theorem lowercase_eq : lowercase =
    Parser.ofRegex (.ofPattern (.set (.range 'a' 'z'))) (Parser.couldNotMatch "[a-z]") :=
  builtin_eq rfl (by decide)

theorem uppercase_eq : uppercase =
    Parser.ofRegex (.ofPattern (.set (.range 'A' 'Z'))) (Parser.couldNotMatch "[A-Z]") :=
  builtin_eq rfl (by decide)

/-! ### Runs of characters -/

/-- A class repeated takes all it can, and has to take something. -/
theorem parse_ofRegex_oneOrMore_set (s : CharSet) (message : String) (input : Text) :
    (Parser.ofRegex (.ofPattern (.times (.set s) 1 none true)) message).parse input =
      if input.takeWhile s.contains = [] then ⟨.failure ⟨0, message⟩, []⟩
      else ⟨.success (String.ofList (input.takeWhile s.contains)) (input.dropWhile s.contains),
        []⟩ := by
  rw [Parser.parse_ofRegex, Regex.matchHere_oneOrMore_set]
  by_cases h : input.takeWhile s.contains = []
  · rw [if_pos h, if_pos h]
  · rw [if_neg h, if_neg h]

theorem parse_word (input : Text) :
    word.parse input =
      if input.takeWhile Char.isAlpha = [] then ⟨.failure ⟨0, wordError⟩, []⟩
      else ⟨.success (String.ofList (input.takeWhile Char.isAlpha)) (input.dropWhile Char.isAlpha),
        []⟩ := by
  rw [word_eq, parse_ofRegex_oneOrMore_set, contains_letters]

theorem parse_whitespace (input : Text) :
    whitespace.parse input =
      if input.takeWhile isWhiteSpace = [] then ⟨.failure ⟨0, Parser.couldNotMatch "\\s+"⟩, []⟩
      else ⟨.success (String.ofList (input.takeWhile isWhiteSpace)) (input.dropWhile isWhiteSpace),
        []⟩ := by
  rw [whitespace_eq, parse_ofRegex_oneOrMore_set, contains_space]

theorem parse_optionalWhitespace (input : Text) :
    optionalWhitespace.parse input =
      ⟨.success (String.ofList (input.takeWhile isWhiteSpace)) (input.dropWhile isWhiteSpace),
        []⟩ := by
  rw [optionalWhitespace_eq, Parser.parse_ofRegex, Regex.matchHere_zeroOrMore_set, contains_space]

/-! ### Single characters -/

theorem parse_ofRegex_set_cons (s : CharSet) (message : String) (c : Char) (rest : Text) :
    (Parser.ofRegex (.ofPattern (.set s)) message).parse (c :: rest) =
      if s.contains c then ⟨.success (String.singleton c) rest, []⟩
      else ⟨.failure ⟨0, message⟩, []⟩ := by
  rw [Parser.parse_ofRegex, Regex.matchHere_set]
  cases hc : s.contains c with
  | true => simp only [hc, if_true, String.singleton_eq_ofList]
  | false => simp only [hc, Bool.false_eq_true, if_false]

theorem parse_ofRegex_set_nil (s : CharSet) (message : String) :
    (Parser.ofRegex (.ofPattern (.set s)) message).parse [] = ⟨.failure ⟨0, message⟩, []⟩ := by
  rw [Parser.parse_ofRegex, Regex.matchHere_set]

/-- What is said where there is no letter. -/
def characterError : String := "Error: Could not match character"

theorem parse_lowercase_cons (c : Char) (rest : Text) :
    lowercase.parse (c :: rest) =
      if c.isLower then ⟨.success (String.singleton c) rest, []⟩
      else ⟨.failure ⟨0, Parser.couldNotMatch "[a-z]"⟩, []⟩ := by
  rw [lowercase_eq, parse_ofRegex_set_cons, contains_lowerRange]

theorem parse_uppercase_cons (c : Char) (rest : Text) :
    uppercase.parse (c :: rest) =
      if c.isUpper then ⟨.success (String.singleton c) rest, []⟩
      else ⟨.failure ⟨0, Parser.couldNotMatch "[A-Z]"⟩, []⟩ := by
  rw [uppercase_eq, parse_ofRegex_set_cons, contains_upperRange]

/-- A lowercase letter is taken at once, an uppercase one by the second alternative. -/
theorem parse_character_cons (c : Char) (rest : Text) :
    character.parse (c :: rest) =
      if c.isLower then ⟨.success (String.singleton c) rest, []⟩
      else if c.isUpper then ⟨.success (String.singleton c) rest, [.fellBack]⟩
      else ⟨.failure ⟨0, characterError⟩, [.fellBack]⟩ := by
  rw [character, Parser.orElseWithError, Parser.parse_withError]
  have hlower := parse_lowercase_cons c rest
  have hupper := parse_uppercase_cons c rest
  cases hl : c.isLower with
  | true =>
    rw [hl, if_pos rfl] at hlower
    rw [Parser.parse_orElse_of_success uppercase (congrArg Logged.value hlower), hlower, if_pos rfl]
    rfl
  | false =>
    rw [hl, if_neg Bool.false_ne_true] at hlower
    rw [Parser.parse_orElse_of_failure uppercase (congrArg Logged.value hlower), hlower, hupper,
      if_neg Bool.false_ne_true]
    cases c.isUpper <;> rfl

theorem parse_character_nil :
    character.parse [] = ⟨.failure ⟨0, characterError⟩, [.fellBack]⟩ := by
  have hlower : lowercase.parse [] = ⟨.failure ⟨0, Parser.couldNotMatch "[a-z]"⟩, []⟩ := by
    rw [lowercase_eq, parse_ofRegex_set_nil]
  have hupper : uppercase.parse [] = ⟨.failure ⟨0, Parser.couldNotMatch "[A-Z]"⟩, []⟩ := by
    rw [uppercase_eq, parse_ofRegex_set_nil]
  rw [character, Parser.orElseWithError, Parser.parse_withError,
    Parser.parse_orElse_of_failure uppercase (congrArg Logged.value hlower), hlower, hupper]
  rfl

/-- How often it takes the second alternative to read a letter. -/
def secondTries (c : Char) : Nat := if c.isUpper then 1 else 0

theorem secondTries_le (c : Char) : secondTries c ≤ 1 := by
  rw [secondTries]
  split <;> omega

theorem not_isLower_of_isUpper (h : c.isUpper) : ¬ c.isLower := by
  intro hl
  obtain ⟨-, hto⟩ := isUpper_iff.1 h
  obtain ⟨hfrom, -⟩ := isLower_iff.1 hl
  exact absurd (Nat.le_trans hfrom hto) (by decide)

/-- A letter is taken, whichever its case. -/
theorem parse_character_of_isAlpha (h : c.isAlpha) (rest : Text) :
    character.parse (c :: rest) =
      ⟨.success (String.singleton c) rest, List.replicate (secondTries c) .fellBack⟩ := by
  rw [parse_character_cons, secondTries]
  by_cases hu : c.isUpper
  · rw [if_neg (not_isLower_of_isUpper hu), if_pos hu, if_pos hu]
    rfl
  · have hl : c.isLower := (isAlpha_iff.1 h).resolve_left hu
    rw [if_pos hl, if_neg hu]
    rfl

theorem parse_character_of_not_isAlpha (h : ¬ c.isAlpha) (rest : Text) :
    character.parse (c :: rest) = ⟨.failure ⟨0, characterError⟩, [.fellBack]⟩ := by
  rw [isAlpha_iff, not_or] at h
  rw [parse_character_cons, if_neg h.2, if_neg h.1]

end TextParser.Words
