import TextParser.Proofs.Words.List

/-!
The word parser that goes down a level for every letter, against the single recognizer.

    input       a b c ␣ d
    level 1     a ✗            no white space behind the letter, so on to level 2
    level 2       b ✗
    level 3         c ␣        the letters are put together on the way back

What the levels below say of a failure is not told: the place is that of the first alternative,
which fails behind its one letter.
-/

namespace TextParser.Words

open Unicode (isWhiteSpace)

variable {c : Char} {input rest left : Text} {next : Parser String} {w : String} {f : Failure}

/-! ### A letter and white space -/

theorem exists_cons_of_letter (h : input.takeWhile Char.isAlpha ≠ []) :
    ∃ c rest, input = c :: rest ∧ c.isAlpha := by
  cases input with
  | nil => exact absurd rfl h
  | cons c rest =>
    by_cases hc : c.isAlpha
    · exact ⟨c, rest, rfl, hc⟩
    · exact absurd (List.takeWhile_cons_of_neg hc) h

theorem not_isAlpha_of_no_letter (h : (c :: rest).takeWhile Char.isAlpha = []) :
    ¬ c.isAlpha := by
  intro hc
  rw [List.takeWhile_cons_of_pos hc] at h
  exact List.cons_ne_nil _ _ h

theorem parse_character_of_no_letter (h : input.takeWhile Char.isAlpha = []) :
    character.parse input = ⟨.failure ⟨0, characterError⟩, [.fellBack]⟩ := by
  cases input with
  | nil => exact parse_character_nil
  | cons c rest => exact parse_character_of_not_isAlpha (not_isAlpha_of_no_letter h) rest

/-- What is taken off a text when a letter goes. -/
theorem byteSize_cons_sub (hc : c.isAlpha) (rest : Text) :
    Text.byteSize (c :: rest) - Text.byteSize rest = 1 := by
  rw [Text.byteSize_cons, utf8Size_of_isAlpha hc, Nat.add_sub_cancel]

/-- A letter in front of white space. -/
theorem parse_character_whitespace (hc : c.isAlpha) (rest : Text) :
    (character.keepLeft whitespace).parse (c :: rest) =
      ⟨if rest.takeWhile isWhiteSpace = [] then .failure ⟨1, Parser.couldNotMatch "\\s+"⟩
      else .success (String.singleton c) (rest.dropWhile isWhiteSpace),
        List.replicate (secondTries c) .fellBack⟩ := by
  have hletter := parse_character_of_isAlpha hc rest
  rw [Parser.keepLeft, Parser.parse_map,
    Parser.parse_andThen_of_success _ (congrArg Logged.value hletter), hletter,
    byteSize_cons_sub hc, parse_whitespace]
  split <;> simp [Failure.shifted]

/-! ### One level -/

/-- How often a level falls back that reads its letter twice. -/
def levelTries (c : Char) : Nat := 2 * secondTries c + 1

variable (next) in
/-- Without a letter in front both alternatives fail at once, each after both cases were tried. -/
theorem parse_level_of_no_letter (h : input.takeWhile Char.isAlpha = []) :
    (wordLevel.level next).parse input =
      ⟨.failure ⟨0, wordError⟩, List.replicate 3 .fellBack⟩ := by
  have hletter := parse_character_of_no_letter h
  have hfails := congrArg Logged.value hletter
  have hfirst : (character.keepLeft whitespace).parse input =
      ⟨.failure ⟨0, characterError⟩, [.fellBack]⟩ := by
    rw [Parser.keepLeft, Parser.parse_map, Parser.parse_andThen_of_failure _ hfails, hletter]
    rfl
  have hsecond (f : String × String → String) : ((character.andThen next).map f).parse input =
      ⟨.failure ⟨0, characterError⟩, [.fellBack]⟩ := by
    rw [Parser.parse_map, Parser.parse_andThen_of_failure _ hfails, hletter]
    rfl
  rw [wordLevel.level, Parser.orElseWithError, Parser.parse_withError,
    Parser.parse_orElse_of_failure _ (congrArg Logged.value hfirst), hfirst, hsecond]
  rfl

variable (next) in
/-- A letter with white space behind it is a word. -/
theorem parse_level_of_whitespace (hc : c.isAlpha) (h : rest.takeWhile isWhiteSpace ≠ []) :
    (wordLevel.level next).parse (c :: rest) =
      ⟨.success (String.singleton c) (rest.dropWhile isWhiteSpace),
        List.replicate (secondTries c) .fellBack⟩ := by
  have hfirst := parse_character_whitespace hc rest
  rw [if_neg h] at hfirst
  rw [wordLevel.level, Parser.orElseWithError, Parser.parse_withError,
    Parser.parse_orElse_of_success _ (congrArg Logged.value hfirst), hfirst]
  rfl

variable (next) in
/-- Any other letter is read again, and it is left to the level below whether there is a word. -/
theorem parse_level_of_no_whitespace (hc : c.isAlpha) (h : rest.takeWhile isWhiteSpace = []) :
    (wordLevel.level next).parse (c :: rest) =
      ⟨match (next.parse rest).value with
        | .success w left => .success (String.singleton c ++ w) left
        | .failure _ => .failure ⟨1, wordError⟩,
        List.replicate (levelTries c) .fellBack ++ (next.parse rest).log⟩ := by
  have hletter := parse_character_of_isAlpha hc rest
  have hfirst := parse_character_whitespace hc rest
  have htries : List.replicate (levelTries c) Event.fellBack =
      List.replicate (secondTries c) .fellBack ++
        .fellBack :: List.replicate (secondTries c) .fellBack := by
    rw [← List.replicate_succ, List.replicate_append_replicate, levelTries]
    congr 1
    omega
  rw [if_pos h] at hfirst
  rw [wordLevel.level, Parser.orElseWithError, Parser.parse_withError,
    Parser.parse_orElse_of_failure _ (congrArg Logged.value hfirst), hfirst, Parser.parse_map,
    Parser.parse_andThen_of_success _ (congrArg Logged.value hletter), hletter, htries,
    List.append_assoc, List.cons_append]
  cases (next.parse rest).value <;> rfl

/-! ### All levels -/

/-- Whether a word of at most `n` letters stands in front of a text, with white space behind it. -/
def HasWord (n : Nat) (input : Text) : Prop :=
  input.takeWhile Char.isAlpha ≠ [] ∧ (input.takeWhile Char.isAlpha).length ≤ n ∧
    (input.dropWhile Char.isAlpha).takeWhile isWhiteSpace ≠ []

instance (n : Nat) (input : Text) : Decidable (HasWord n input) :=
  inferInstanceAs (Decidable (_ ∧ _))

/-- Whether `p` takes the words of at most `n` letters and fails on all other texts. -/
def TakesWords (n : Nat) (p : Parser String) : Prop :=
  ∀ input, if HasWord n input then
      (p.parse input).value =
        .success (String.ofList (input.takeWhile Char.isAlpha)) (afterToken input)
    else ∃ f, (p.parse input).value = .failure f

/-- There is no word without letters. -/
theorem not_hasWord_zero (input : Text) : ¬ HasWord 0 input :=
  fun h => h.1 (List.length_eq_zero_iff.1 (Nat.le_zero.1 h.2.1))

theorem takesWords_zero : TakesWords 0 (Parser.fail 0 wordError) := by
  intro input
  rw [if_neg (not_hasWord_zero input)]
  exact ⟨_, rfl⟩

/-- White space directly behind a letter ends the word. -/
theorem takeWhile_isAlpha_eq_nil (h : rest.takeWhile isWhiteSpace ≠ []) :
    rest.takeWhile Char.isAlpha = [] := by
  cases rest with
  | nil => rfl
  | cons d rest =>
    have hd : isWhiteSpace d := by
      by_cases hd : isWhiteSpace d
      · exact hd
      · exact absurd (List.takeWhile_cons_of_neg hd) h
    exact List.takeWhile_cons_of_neg fun ha => not_isWhiteSpace_of_isAlpha ha hd

theorem hasWord_cons_of_whitespace (n : Nat) (hc : c.isAlpha)
    (h : rest.takeWhile isWhiteSpace ≠ []) : HasWord (n + 1) (c :: rest) := by
  have hletters := takeWhile_isAlpha_eq_nil h
  rw [HasWord, List.takeWhile_cons_of_pos hc, List.dropWhile_cons_of_pos hc, hletters,
    Text.dropWhile_eq_self hletters]
  exact ⟨List.cons_ne_nil _ _, Nat.le_add_left .., h⟩

/-- With anything else behind the letter, the word is one letter longer than the one there. -/
theorem hasWord_cons_iff (n : Nat) (hc : c.isAlpha) (h : rest.takeWhile isWhiteSpace = []) :
    HasWord (n + 1) (c :: rest) ↔ HasWord n rest := by
  rw [HasWord, HasWord, List.takeWhile_cons_of_pos hc, List.dropWhile_cons_of_pos hc,
    List.length_cons, Nat.add_le_add_iff_right]
  constructor
  · rintro ⟨-, hlength, hblanks⟩
    refine ⟨fun hletters => hblanks ?_, hlength, hblanks⟩
    rw [Text.dropWhile_eq_self hletters, h]
  · rintro ⟨-, h⟩
    exact ⟨List.cons_ne_nil _ _, h⟩

/-- A level takes one letter more than the one below it. Where there is no such word it fails in
front of the first letter or behind it, whatever the level below says. -/
theorem value_parse_level {n : Nat} (hnext : TakesWords n next) (input : Text) :
    ((wordLevel.level next).parse input).value =
      if HasWord (n + 1) input then
        .success (String.ofList (input.takeWhile Char.isAlpha)) (afterToken input)
      else if input.takeWhile Char.isAlpha = [] then .failure ⟨0, wordError⟩
      else .failure ⟨1, wordError⟩ := by
  by_cases hletters : input.takeWhile Char.isAlpha = []
  · rw [parse_level_of_no_letter next hletters, if_neg fun h => h.1 hletters, if_pos hletters]
  obtain ⟨c, rest, rfl, hc⟩ := exists_cons_of_letter hletters
  rw [if_neg hletters]
  by_cases hblanks : rest.takeWhile isWhiteSpace = []
  · -- the level below decides
    have hrest := hnext rest
    rw [parse_level_of_no_whitespace next hc hblanks]
    dsimp only
    by_cases hword : HasWord n rest
    · rw [if_pos hword] at hrest
      rw [if_pos ((hasWord_cons_iff n hc hblanks).2 hword), hrest, List.takeWhile_cons_of_pos hc,
        afterToken_cons hc, String.ofList_cons]
    · rw [if_neg hword] at hrest
      obtain ⟨f, hf⟩ := hrest
      rw [if_neg fun h => hword ((hasWord_cons_iff n hc hblanks).1 h), hf]
  · have hnone := takeWhile_isAlpha_eq_nil hblanks
    rw [parse_level_of_whitespace next hc hblanks,
      if_pos (hasWord_cons_of_whitespace n hc hblanks), List.takeWhile_cons_of_pos hc,
      afterToken_cons hc, afterToken, hnone, Text.dropWhile_eq_self hnone,
      String.singleton_eq_ofList]

theorem takesWords_level {n : Nat} (hnext : TakesWords n next) :
    TakesWords (n + 1) (wordLevel.level next) := by
  intro input
  rw [value_parse_level hnext]
  split
  · rfl
  · split <;> exact ⟨_, rfl⟩

/-- Level by level from the deepest one up. -/
theorem takesWords_wordLevel : ∀ below, TakesWords (below + 1) (wordLevel below)
  | 0 => takesWords_level takesWords_zero
  | below + 1 => takesWords_level (takesWords_wordLevel below)

/-! ### The whole parser -/

/-- The single recognizer with white space behind it, on a word that is not too long. -/
theorem value_parse_word_whitespace {n : Nat} (h : HasWord n input) :
    ((word.keepLeft whitespace).parse input).value =
      .success (String.ofList (input.takeWhile Char.isAlpha)) (afterToken input) := by
  have hword := parse_word input
  have hblanks := parse_whitespace (input.dropWhile Char.isAlpha)
  rw [if_neg h.1] at hword
  rw [if_neg h.2.2] at hblanks
  rw [Parser.keepLeft, Parser.parse_map,
    Parser.parse_andThen_of_success _ (congrArg Logged.value hword), hblanks]
  rfl

/-- The parser takes the words of up to 256 letters that have white space behind them, just as the
single recognizer does. Elsewhere it fails in front of the first letter or behind it. -/
theorem value_parse_wordRecursive (input : Text) :
    (wordRecursive.parse input).value =
        (if HasWord 256 input then
          .success (String.ofList (input.takeWhile Char.isAlpha)) (afterToken input)
        else if input.takeWhile Char.isAlpha = [] then .failure ⟨0, wordError⟩
        else .failure ⟨1, wordError⟩) ∧
      (HasWord 256 input →
        (wordRecursive.parse input).value = ((word.keepLeft whitespace).parse input).value) := by
  have hvalue := value_parse_level (takesWords_wordLevel 254) input
  refine ⟨hvalue, fun h => ?_⟩
  rw [if_pos h] at hvalue
  rw [value_parse_word_whitespace h]
  exact hvalue

theorem value_parse_wordRecursive_two_letters :
    HasWord 256 "ab  c".toList ∧
      (wordRecursive.parse "ab  c".toList).value =
        ((word.keepLeft whitespace).parse "ab  c".toList).value ∧
      ((word.keepLeft whitespace).parse "ab  c".toList).value = .success "ab" ['c'] := by
  have hword : HasWord 256 "ab  c".toList := by decide
  exact ⟨hword, (value_parse_wordRecursive "ab  c".toList).2 hword,
    value_parse_word_whitespace hword⟩

end TextParser.Words
