import TextParser.Proofs.Parser.Recursion
import TextParser.Proofs.Words.List

/-!
The loop of a list of words against the same list put together by recursion:

    list = token, then list      the word in front of the words that follow
           or else the end       no words

The loop moves a failure on once, by all that is in front of it. The recursion moves it on once at
every level, and at every level the end of the text is tried after it, which is not there. So both
tell the same place.
-/

namespace TextParser.Words

variable {first skipped : String} {t next input rest : Text} {f : Failure} {size : Nat}
  {p : Parser String} {list : Parser (List String)}

/-! ### The recursive list -/

/-- A list of `p`, if `list` takes what follows the first one. -/
def listBody (p : Parser String) (list : Parser (List String)) : Parser (List String) :=
  ((p.andThen list).map fun (first, more) => first :: more).orElse
    (Parser.endOfInput.map fun _ => [])

theorem callsShorter_listBody (hp : p.Progresses) : Parser.CallsShorter (listBody p) :=
  .orElse (.map (.andThen hp) _) (.const _)

theorem value_parse_end_nil :
    ((Parser.endOfInput.map fun _ => ([] : List String)).parse []).value = .success [] [] := rfl

theorem value_parse_end (ht : t ≠ []) :
    ∃ e, ((Parser.endOfInput.map fun _ => ([] : List String)).parse t).value = .failure e := by
  cases t with
  | nil => exact absurd rfl ht
  | cons c t => exact ⟨_, rfl⟩

variable (list) in
/-- The first alternative fails with its first part. -/
theorem value_parse_item_of_failure (h : (p.parse t).value = .failure f) :
    (((p.andThen list).map fun (first, more) => first :: more).parse t).value = .failure f := by
  rw [Parser.parse_map, Parser.parse_andThen_of_failure _ h, Parsed.map_failure]

variable (list) in
theorem value_parse_listBody_nil (h : (p.parse []).value = .failure f) :
    ((listBody p list).parse []).value = .success [] [] := by
  rw [listBody, Parser.parse_orElse_of_failure _ (value_parse_item_of_failure list h),
    value_parse_end_nil, Parsed.orParse_success]

variable (list) in
/-- Before the end of the text, the list fails as its first part does. -/
theorem value_parse_listBody_of_failure (ht : t ≠ []) (h : (p.parse t).value = .failure f) :
    ((listBody p list).parse t).value = .failure f := by
  obtain ⟨e, he⟩ := value_parse_end ht
  rw [listBody, Parser.parse_orElse_of_failure _ (value_parse_item_of_failure list h), he,
    Parsed.orParse_failure]

variable (list) in
/-- Behind a first part, the list goes on with what follows; its failure is told again although
the end of the text is tried after it. -/
theorem value_parse_listBody_of_success (ht : t ≠ [])
    (h : (p.parse t).value = .success first next) :
    ((listBody p list).parse t).value =
      ((list.parse next).value.map (first :: ·)).shifted (t.byteSize - next.byteSize) := by
  have hfirst : (((p.andThen list).map fun (first, more) => first :: more).parse t).value =
      ((list.parse next).value.map (first :: ·)).shifted (t.byteSize - next.byteSize) := by
    rw [Parser.parse_map, Parser.parse_andThen_of_success _ h]
    cases (list.parse next).value <;> rfl
  rw [listBody]
  cases hlist : (list.parse next).value with
  | success more rest =>
    rw [hlist] at hfirst
    rw [Parser.parse_orElse_of_success _ hfirst, hfirst]
  | failure e =>
    rw [hlist] at hfirst
    obtain ⟨g, hg⟩ := value_parse_end ht
    rw [Parser.parse_orElse_of_failure _ hfirst, hg, Parsed.orParse_failure]
    rfl

/-! ### Tokens -/

theorem progresses_token : token.Progresses := by
  intro t first next h
  rw [parse_token] at h
  split at h
  · cases h
  · cases h
    exact length_afterToken_lt ‹_›

theorem value_parse_token_nil : (token.parse []).value = .failure ⟨0, wordError⟩ := by
  rw [parse_token]
  rfl

/-- The loop does what the recursion does, moved on by all that is in front. -/
theorem value_tokens_eq (hlist : listBody token list = list) (hsize : t.byteSize ≤ size) :
    (tokens size t).value = (list.parse t).value.shifted (size - t.byteSize) := by
  induction hn : t.length using Nat.strongRecOn generalizing t with
  | ind n ih =>
    subst hn
    by_cases hnil : t = []
    · subst hnil
      have hend := value_parse_listBody_nil list value_parse_token_nil
      rw [hlist] at hend
      rw [tokens_nil, hend, Parsed.shifted_success]
    cases htok : (token.parse t).value with
    | failure e =>
      have hround := value_parse_listBody_of_failure list hnil htok
      rw [hlist] at hround
      rw [tokens_of_failure hnil htok, hround, Parsed.shifted_failure]
    | success first next =>
      have hround := value_parse_listBody_of_success list hnil htok
      have hlt := progresses_token htok
      have hnext := Text.byteSize_le_of_suffix (keepsContract_token.leavesSuffix htok)
      -- what the token took, and what is in front of it, is all that is in front of what follows
      have hsum : t.byteSize - next.byteSize + (size - t.byteSize) = size - next.byteSize := by
        omega
      rw [hlist] at hround
      rw [tokens_of_success hnil htok hlt, ih _ hlt (Nat.le_trans hnext hsize) rfl, hround,
        Parsed.shifted_shifted, hsum, Parsed.shifted_map]

/-! ### Whole texts -/

theorem value_parse_words_of_skip
    (hs : (optionalWhitespace.parse input).value = .success skipped t) :
    (words.parse input).value = (tokens input.byteSize t).value := by
  cases ht : (tokens input.byteSize t).value with
  | success list rest => rw [parse_words_of_success hs ht]
  | failure e => rw [parse_words_of_failure hs ht]

/-- One parser is a token and then itself, or else the end of the text. Behind white space, it
takes what the loop takes and fails where and as the loop fails. -/
theorem words_agrees_recursive_list :
    ∃ (blanks : Parser String) (list : Parser (List String)),
      (Parser.matching .standard "\\s*").value = .ok blanks ∧
      listBody (word.keepLeft blanks) list = list ∧
      (∀ other, listBody (word.keepLeft blanks) other = other → other = list) ∧
      ∀ input, (words.parse input).value = ((blanks.keepRight list).parse input).value ∧
        ∀ ws rest, (words.parse input).value = .success ws rest → rest = [] := by
  have hcalls := callsShorter_listBody progresses_token
  have hlist := Parser.body_fix hcalls
  refine ⟨optionalWhitespace, .fix (listBody token), matching_optionalWhitespace, hlist,
    fun other hother => Parser.eq_of_body_eq hcalls hother hlist, fun input => ?_⟩
  cases hs : (optionalWhitespace.parse input).value with
  | failure e =>
    rw [parse_words_of_skip_failure hs, Parser.keepRight, Parser.parse_map,
      Parser.parse_andThen_of_failure _ hs]
    exact ⟨rfl, by rintro ws rest ⟨⟩⟩
  | success skipped t =>
    have hskip := keepsContract_optionalWhitespace.leavesSuffix hs
    have hloop := value_tokens_eq hlist (Text.byteSize_le_of_suffix hskip)
    rw [value_parse_words_of_skip hs]
    constructor
    · rw [hloop, Parser.keepRight, Parser.parse_map, Parser.parse_andThen_of_success _ hs]
      cases ((Parser.fix (listBody token)).parse t).value <;> rfl
    · intro ws rest h
      exact (tokens_within input t hskip).1 ws rest h

end TextParser.Words
