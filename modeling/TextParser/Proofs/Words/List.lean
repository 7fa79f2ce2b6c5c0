import TextParser.Proofs.Text.Runs
import TextParser.Proofs.Words.Letters
import TextParser.Proofs.Words.Tokens

/-!
A list of words is taken as a whole, or fails at the first character that is neither a letter nor
white space.

    input    ␣␣ab␣␣cde␣f         words   ab cde f
    rounds     ab␣␣|cde␣|f|

    input    ␣ab␣3␣c             fails at byte 4
    rounds     ab␣|3

A round leaves two things as they are: the runs of letters still to come, and the place of the
first character that may not stand in a list.
-/

namespace TextParser.Words

open Unicode (isWhiteSpace)

variable {c : Char} {t : Text}

/-- Whether a character may stand in a list of words. -/
def isListed (c : Char) : Bool := c.isAlpha || isWhiteSpace c

theorem isListed_of_isAlpha (h : c.isAlpha) : isListed c := by
  rw [isListed, h, Bool.true_or]

theorem isListed_of_isWhiteSpace (h : isWhiteSpace c) : isListed c := by
  rw [isListed, h, Bool.or_true]

/-! ### One round -/

/-- What a word and the white space after it leave. -/
def afterToken (t : Text) : Text := (t.dropWhile Char.isAlpha).dropWhile isWhiteSpace

theorem afterToken_cons (hc : c.isAlpha) (t : Text) : afterToken (c :: t) = afterToken t := by
  rw [afterToken, List.dropWhile_cons_of_pos hc, afterToken]

theorem parse_token (t : Text) :
    token.parse t =
      if t.takeWhile Char.isAlpha = [] then ⟨.failure ⟨0, wordError⟩, []⟩
      else ⟨.success (String.ofList (t.takeWhile Char.isAlpha)) (afterToken t), []⟩ := by
  have hword := parse_word t
  rw [token, Parser.keepLeft, Parser.parse_map]
  split at hword
  · rw [if_pos ‹_›, Parser.parse_andThen_of_failure _ (congrArg Logged.value hword), hword]
    rfl
  · rw [if_neg ‹_›, Parser.parse_andThen_of_success _ (congrArg Logged.value hword), hword,
      parse_optionalWhitespace]
    rfl

/-- A round starts with a letter, so it takes something. -/
theorem length_afterToken_lt (ht : t.takeWhile Char.isAlpha ≠ []) :
    (afterToken t).length < t.length := by
  have hblanks := (List.dropWhile_suffix isWhiteSpace (l := t.dropWhile Char.isAlpha)).length_le
  have hsplit := congrArg List.length (List.takeWhile_append_dropWhile (p := Char.isAlpha) (l := t))
  have hpos := List.length_pos_iff.2 ht
  rw [List.length_append] at hsplit
  rw [afterToken]
  omega

/-- No white space is left in front. -/
theorem not_isWhiteSpace_head_dropWhile (t : Text) :
    ∀ c ∈ (t.dropWhile isWhiteSpace).head?, ¬ isWhiteSpace c := by
  intro c hc
  have h := List.head?_dropWhile_not isWhiteSpace t
  rw [Option.mem_def.1 hc] at h
  simpa using h

theorem not_isWhiteSpace_head_afterToken (t : Text) :
    ∀ c ∈ (afterToken t).head?, ¬ isWhiteSpace c :=
  not_isWhiteSpace_head_dropWhile _

/-- What a round takes may all stand in a list. -/
theorem dropWhile_isListed_afterToken (t : Text) :
    (afterToken t).dropWhile isListed = t.dropWhile isListed := by
  rw [afterToken, Text.dropWhile_dropWhile fun _ => isListed_of_isWhiteSpace,
    Text.dropWhile_dropWhile fun _ => isListed_of_isAlpha]

/-- The word of a round is the first run of letters. -/
theorem runs_eq_cons_afterToken (ht : t.takeWhile Char.isAlpha ≠ []) :
    t.runs Char.isAlpha = t.takeWhile Char.isAlpha :: (afterToken t).runs Char.isAlpha := by
  cases t with
  | nil => exact absurd rfl ht
  | cons c t =>
    by_cases hc : c.isAlpha
    · rw [Text.runs_cons_of_mem hc, List.takeWhile_cons_of_pos hc, afterToken,
        List.dropWhile_cons_of_pos hc,
        Text.runs_dropWhile fun d hd ha => not_isWhiteSpace_of_isAlpha ha hd]
    · exact absurd (List.takeWhile_cons_of_neg hc) ht

/-! ### All rounds -/

/-- A text that begins with neither a letter nor white space begins with what may not stand in a
list. -/
theorem not_isListed_of_takeWhile_eq_nil (hword : (c :: t).takeWhile Char.isAlpha = [])
    (hc : ¬ isWhiteSpace c) : ¬ isListed c := by
  intro h
  rw [isListed, Bool.or_eq_true] at h
  have halpha : c.isAlpha := h.resolve_right hc
  rw [List.takeWhile_cons_of_pos halpha] at hword
  exact List.cons_ne_nil _ _ hword

/-- The loop on a text without white space in front of it: all runs of letters, or a failure where
the first character stands that is neither a letter nor white space. -/
theorem tokens_eq (size : Nat) (ht : ∀ c ∈ t.head?, ¬ isWhiteSpace c) :
    tokens size t =
      if t.dropWhile isListed = [] then
        ⟨.success ((t.runs Char.isAlpha).map String.ofList) [], []⟩
      else ⟨.failure ⟨size - Text.byteSize (t.dropWhile isListed), wordError⟩, []⟩ := by
  induction hn : t.length using Nat.strongRecOn generalizing t with
  | ind n ih =>
    subst hn
    cases t with
    | nil => rw [tokens_nil]; rfl
    | cons c t =>
      have hne := List.cons_ne_nil c t
      have hround := parse_token (c :: t)
      by_cases hword : (c :: t).takeWhile Char.isAlpha = []
      · have hc := not_isListed_of_takeWhile_eq_nil hword (ht c rfl)
        rw [if_pos hword] at hround
        rw [tokens_of_failure hne (congrArg Logged.value hround), hround,
          List.dropWhile_cons_of_neg hc, if_neg hne, Failure.shifted, Nat.zero_add]
      · have hlt := length_afterToken_lt hword
        rw [if_neg hword] at hround
        rw [tokens_of_success hne (congrArg Logged.value hround) hlt, hround,
          ih _ hlt (not_isWhiteSpace_head_afterToken _) rfl, dropWhile_isListed_afterToken]
        split
        · rw [runs_eq_cons_afterToken hword]
          rfl
        · rfl

/-! ### The whole list -/

/-- A text is a list of words if letters and white space are all there is in it. The words are then
its runs of letters, each as long as it can be; if it is none, the failure is where the first other
character stands. -/
theorem parse_words (input : Text) :
    words.parse input =
        (if input.all isListed then
          ⟨.success ((input.runs Char.isAlpha).map String.ofList) [],
            [.parsedWords (input.runs Char.isAlpha).length]⟩
        else ⟨.failure ⟨Text.byteSize (input.takeWhile isListed), wordError⟩, []⟩) ∧
      (words.parse input).log.fallbacks = 0 ∧
      ∀ w, w ∈ input.runs Char.isAlpha ↔
        ∃ front back, input = front ++ (w ++ back) ∧
          Text.IsRun Char.isAlpha none front w back := by
  have hblanks := parse_optionalWhitespace input
  have hloop := tokens_eq input.byteSize (not_isWhiteSpace_head_dropWhile input)
  rw [Text.dropWhile_dropWhile fun _ => isListed_of_isWhiteSpace,
    Text.runs_dropWhile fun c hc ha => not_isWhiteSpace_of_isAlpha ha hc] at hloop
  by_cases hall : input.all isListed
  · rw [if_pos (Text.dropWhile_eq_nil_iff.2 hall)] at hloop
    have hwords :=
      parse_words_of_success (congrArg Logged.value hblanks) (congrArg Logged.value hloop)
    rw [hblanks, hloop, List.length_map] at hwords
    rw [if_pos hall, hwords]
    exact ⟨rfl, rfl, fun _ => Text.mem_runs_iff⟩
  · rw [if_neg fun h => hall (Text.dropWhile_eq_nil_iff.1 h), Text.byteSize_sub_dropWhile] at hloop
    have hwords :=
      parse_words_of_failure (congrArg Logged.value hblanks) (congrArg Logged.value hloop)
    rw [hblanks, hloop] at hwords
    rw [if_neg hall, hwords]
    exact ⟨rfl, rfl, fun _ => Text.mem_runs_iff⟩

end TextParser.Words
