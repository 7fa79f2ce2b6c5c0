import Mathlib.Algebra.GroupWithZero.Nat
import TextParser.Proofs.Words.Recursive

/-!
What the recursive word parser costs: the number of times it falls back, which is all that it
records.

    input       a B c ␣
    level 1     a ↩ a          no white space, so the letter is read again: one fallback
    level 2       ↩B ↩ ↩B      an uppercase letter is itself a second alternative: three
    level 3            c ␣     the word ends at the first try: none

A level runs the level below at most once, so the cost adds up over the letters.
-/

namespace TextParser.Words

open Unicode (isWhiteSpace)

variable {c : Char} {input rest : Text} {next : Parser String} {n : Nat}

/-! ### Counting -/

/-- How often `n` levels fall back. Every letter but the last one of a word is read twice. Where
the letters end without a word, one more level fails with both of its alternatives. -/
def wordTries (n : Nat) (input : Text) : Nat :=
  let letters := input.takeWhile Char.isAlpha
  if HasWord n input then
    (letters.dropLast.map levelTries).sum + (letters.getLast?.map secondTries).getD 0
  else if letters.length < n then (letters.map levelTries).sum + 3
  else ((letters.take n).map levelTries).sum

theorem wordTries_zero (input : Text) : wordTries 0 input = 0 := by
  rw [wordTries, if_neg (not_hasWord_zero input), if_neg (Nat.not_lt_zero _)]
  rfl

theorem wordTries_of_no_letter (h : input.takeWhile Char.isAlpha = []) :
    wordTries (n + 1) input = 3 := by
  rw [wordTries, if_neg fun hword => hword.1 h, h]
  rfl

theorem wordTries_of_whitespace (hc : c.isAlpha) (h : rest.takeWhile isWhiteSpace ≠ []) :
    wordTries (n + 1) (c :: rest) = secondTries c := by
  rw [wordTries, if_pos (hasWord_cons_of_whitespace n hc h), List.takeWhile_cons_of_pos hc,
    takeWhile_isAlpha_eq_nil h]
  simp

/-- With no white space behind it a letter is read twice, and then the levels below count. -/
theorem wordTries_cons (hc : c.isAlpha) (h : rest.takeWhile isWhiteSpace = []) :
    wordTries (n + 1) (c :: rest) = levelTries c + wordTries n rest := by
  rw [wordTries, wordTries, List.takeWhile_cons_of_pos hc]
  simp only [hasWord_cons_iff n hc h, List.length_cons, Nat.add_lt_add_iff_right]
  by_cases hword : HasWord n rest
  · obtain ⟨d, letters, hletters⟩ := List.exists_cons_of_ne_nil hword.1
    rw [if_pos hword, if_pos hword, hletters, List.dropLast_cons_cons, List.map_cons,
      List.sum_cons, List.getLast?_cons_cons, Nat.add_assoc]
  · rw [if_neg hword, if_neg hword]
    split
    · rw [List.map_cons, List.sum_cons, Nat.add_assoc]
    · rw [List.take_succ_cons, List.map_cons, List.sum_cons]

/-- No level falls back more than three times. -/
theorem wordTries_le : ∀ (n : Nat) (input : Text),
    wordTries n input ≤ 3 * min n ((input.takeWhile Char.isAlpha).length + 1)
  | 0, input => by simp [wordTries_zero]
  | n + 1, input => by
    by_cases hletters : input.takeWhile Char.isAlpha = []
    · rw [wordTries_of_no_letter hletters]
      omega
    obtain ⟨c, rest, rfl, hc⟩ := exists_cons_of_letter hletters
    have hletter := secondTries_le c
    rw [List.takeWhile_cons_of_pos hc, List.length_cons]
    by_cases hblanks : rest.takeWhile isWhiteSpace = []
    · have hrest := wordTries_le n rest
      rw [wordTries_cons hc hblanks, levelTries]
      omega
    · rw [wordTries_of_whitespace hc hblanks]
      omega

/-! ### Records of levels -/

/-- A level falls back at most three times itself, and runs the level below once or not at all. -/
theorem log_parse_level (next : Parser String) (input : Text) :
    ∃ k ≤ 3, ((wordLevel.level next).parse input).log = List.replicate k .fellBack ∨
      ∃ c rest, input = c :: rest ∧ ((wordLevel.level next).parse input).log =
        List.replicate k .fellBack ++ (next.parse rest).log := by
  by_cases hletters : input.takeWhile Char.isAlpha = []
  · rw [parse_level_of_no_letter next hletters]
    exact ⟨3, Nat.le_refl 3, .inl rfl⟩
  obtain ⟨c, rest, rfl, hc⟩ := exists_cons_of_letter hletters
  have hletter := secondTries_le c
  by_cases hblanks : rest.takeWhile isWhiteSpace = []
  · rw [parse_level_of_no_whitespace next hc hblanks]
    exact ⟨levelTries c, by rw [levelTries]; omega, .inr ⟨c, rest, rfl, rfl⟩⟩
  · rw [parse_level_of_whitespace next hc hblanks]
    exact ⟨secondTries c, by omega, .inl rfl⟩

/-- What is counted for the level below is counted for the one above it. -/
theorem log_parse_level_of_counted (hnext : ∀ rest, (next.parse rest).log =
      List.replicate (wordTries n rest) .fellBack) (input : Text) :
    ((wordLevel.level next).parse input).log =
      List.replicate (wordTries (n + 1) input) .fellBack := by
  by_cases hletters : input.takeWhile Char.isAlpha = []
  · rw [parse_level_of_no_letter next hletters, wordTries_of_no_letter hletters]
  obtain ⟨c, rest, rfl, hc⟩ := exists_cons_of_letter hletters
  by_cases hblanks : rest.takeWhile isWhiteSpace = []
  · rw [parse_level_of_no_whitespace next hc hblanks, wordTries_cons hc hblanks, hnext,
      List.replicate_append_replicate]
  · rw [parse_level_of_whitespace next hc hblanks, wordTries_of_whitespace hc hblanks]

/-- Level by level from the deepest one up; below that one nothing is tried. -/
theorem log_parse_wordLevel : ∀ (below : Nat) (input : Text),
    ((wordLevel below).parse input).log =
      List.replicate (wordTries (below + 1) input) .fellBack
  | 0, input => by
    refine log_parse_level_of_counted (fun rest => ?_) input
    rw [wordTries_zero]
    rfl
  | below + 1, input => log_parse_level_of_counted (log_parse_wordLevel below) input

/-- The parser records its fallbacks and nothing else. They are at most three for every level, for a
level falls back at most three times itself and runs the level below once or not at all. -/
theorem fallbacks_parse_wordRecursive (input : Text) :
    (wordRecursive.parse input).log.fallbacks = wordTries 256 input ∧
      (wordRecursive.parse input).log = List.replicate (wordTries 256 input) .fellBack ∧
      wordTries 256 input ≤ 768 ∧
      wordTries 256 input ≤ 3 * ((input.takeWhile Char.isAlpha).length + 1) ∧
      ∀ next t, ∃ k ≤ 3, ((wordLevel.level next).parse t).log = List.replicate k .fellBack ∨
        ∃ c rest, t = c :: rest ∧ ((wordLevel.level next).parse t).log =
          List.replicate k .fellBack ++ (next.parse rest).log := by
  have hlog : (wordRecursive.parse input).log = List.replicate (wordTries 256 input) .fellBack :=
    log_parse_wordLevel 255 input
  have hbound := wordTries_le 256 input
  refine ⟨?_, hlog, by omega, by omega, log_parse_level⟩
  rw [hlog, Log.fallbacks, List.count_replicate_self]

end TextParser.Words
