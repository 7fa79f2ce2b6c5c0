import TextParser.Proofs.Parser.Recognizer

/-!
The loop of a list of words, one round at a time, and the contract of the word parsers.

    input     skipped | token token … | text of this round
                                        its failures, moved on by all that is in front

Each round runs on a suffix of the whole input. That is what carries the contract from round to
round, for the place of a failure is told by the difference of the two lengths.
-/

namespace TextParser.Words

variable {size : Nat} {input t next rest : Text} {first skipped : String} {list : List String}
  {f : Failure}

/-! ### Rounds -/

theorem tokens_nil (size : Nat) : tokens size [] = ⟨.success [] [], []⟩ := by
  rw [tokens]
  rfl

theorem tokens_of_failure (ht : t ≠ []) (h : (token.parse t).value = .failure f) :
    tokens size t = ⟨.failure (f.shifted (size - t.byteSize)), (token.parse t).log⟩ := by
  obtain ⟨c, rest, rfl⟩ := List.exists_cons_of_ne_nil ht
  rw [tokens]
  simp only [Logged.bind_eq, h, Logged.pure_eq, List.append_nil, Parsed.shifted_failure]

theorem tokens_of_success (ht : t ≠ []) (h : (token.parse t).value = .success first next)
    (hlt : next.length < t.length) :
    tokens size t =
      ⟨(tokens size next).value.map (first :: ·),
        (token.parse t).log ++ (tokens size next).log⟩ := by
  obtain ⟨c, rest, rfl⟩ := List.exists_cons_of_ne_nil ht
  rw [tokens]
  simp only [Logged.bind_eq, h, hlt, dite_true, Logged.pure_eq, List.append_nil]

/-- A token that takes nothing stops the loop. -/
theorem tokens_of_no_progress (ht : t ≠ []) (h : (token.parse t).value = .success first next)
    (hlt : ¬ next.length < t.length) :
    tokens size t = ⟨.failure ⟨0, Parser.noProgress⟩, (token.parse t).log⟩ := by
  obtain ⟨c, rest, rfl⟩ := List.exists_cons_of_ne_nil ht
  rw [tokens]
  simp only [Logged.bind_eq, h, hlt, dite_false, Logged.pure_eq, List.append_nil]

/-! ### The whole list -/

theorem parse_words_of_skip_failure
    (hs : (optionalWhitespace.parse input).value = .failure f) :
    words.parse input = ⟨.failure f, (optionalWhitespace.parse input).log⟩ := by
  simp only [words, Logged.bind_eq, hs, Logged.pure_eq, List.append_nil]

theorem parse_words_of_failure
    (hs : (optionalWhitespace.parse input).value = .success skipped t)
    (ht : (tokens input.byteSize t).value = .failure f) :
    words.parse input =
      ⟨.failure f, (optionalWhitespace.parse input).log ++ (tokens input.byteSize t).log⟩ := by
  simp only [words, Logged.bind_eq, hs, ht, Logged.pure_eq, List.append_nil]

theorem parse_words_of_success
    (hs : (optionalWhitespace.parse input).value = .success skipped t)
    (ht : (tokens input.byteSize t).value = .success list rest) :
    words.parse input =
      ⟨.success list rest, (optionalWhitespace.parse input).log ++
        ((tokens input.byteSize t).log ++ [.parsedWords list.length])⟩ := by
  simp only [words, Logged.bind_eq, hs, ht, Logged.pure_eq, Logged.record, List.append_nil]

/-! ### The contract -/

theorem keepsContract_optionalWhitespace : optionalWhitespace.KeepsContract :=
  .builtin _ _

theorem keepsContract_token : token.KeepsContract :=
  .keepLeft (.builtin _ _) keepsContract_optionalWhitespace

/-- The loop ends with nothing left, or fails at a boundary of the input that its text is a suffix
of. -/
theorem tokens_within (input t : Text) (ht : t <:+ input) :
    (∀ list rest, (tokens input.byteSize t).value = .success list rest → rest = []) ∧
      ∀ f, (tokens input.byteSize t).value = .failure f → input.IsBoundary f.offset := by
  induction hn : t.length using Nat.strongRecOn generalizing t with
  | ind n ih =>
    subst hn
    by_cases hnil : t = []
    · subst hnil
      rw [tokens_nil]
      exact ⟨by rintro list rest ⟨⟩; rfl, by rintro f ⟨⟩⟩
    cases htok : (token.parse t).value with
    | failure e =>
      rw [tokens_of_failure hnil htok]
      refine ⟨by rintro list rest ⟨⟩, ?_⟩
      rintro f ⟨⟩
      exact (keepsContract_token.failsWithin htok).add_sub ht
    | success first next =>
      by_cases hlt : next.length < t.length
      · have hnext : next <:+ input := (keepsContract_token.leavesSuffix htok).trans ht
        obtain ⟨hsuccess, hfailure⟩ := ih next.length hlt next hnext rfl
        rw [tokens_of_success hnil htok hlt]
        constructor
        · intro list rest h
          obtain ⟨others, ho, -⟩ := Parsed.map_eq_success_iff.1 h
          exact hsuccess others rest ho
        · intro f h
          exact hfailure f (Parsed.map_eq_failure_iff.1 h)
      · rw [tokens_of_no_progress hnil htok hlt]
        refine ⟨by rintro list rest ⟨⟩, ?_⟩
        rintro f ⟨⟩
        exact input.isBoundary_zero

theorem keepsContract_words : words.KeepsContract := by
  suffices h : ∀ input,
      (∀ list rest, (words.parse input).value = .success list rest → rest <:+ input) ∧
      ∀ f, (words.parse input).value = .failure f → input.IsBoundary f.offset from
    ⟨fun input list rest => (h input).1 list rest, fun input f => (h input).2 f⟩
  intro input
  cases hs : (optionalWhitespace.parse input).value with
  | failure e =>
    rw [parse_words_of_skip_failure hs]
    refine ⟨by rintro list rest ⟨⟩, ?_⟩
    rintro f ⟨⟩
    exact keepsContract_optionalWhitespace.failsWithin hs
  | success skipped t =>
    have hskip : t <:+ input := keepsContract_optionalWhitespace.leavesSuffix hs
    obtain ⟨hsuccess, hfailure⟩ := tokens_within input t hskip
    cases ht : (tokens input.byteSize t).value with
    | failure e =>
      rw [parse_words_of_failure hs ht]
      refine ⟨by rintro list rest ⟨⟩, ?_⟩
      rintro f ⟨⟩
      exact hfailure e ht
    | success list rest =>
      rw [parse_words_of_success hs ht]
      refine ⟨?_, by rintro f ⟨⟩⟩
      rintro _ _ ⟨⟩
      rw [hsuccess list rest ht]
      exact List.nil_suffix

theorem keepsContract_character : character.KeepsContract :=
  .orElseWithError (.builtin _ _) (.builtin _ _) _

theorem keepsContract_level {next : Parser String} (hnext : next.KeepsContract) :
    (wordLevel.level next).KeepsContract :=
  .orElseWithError (.keepLeft keepsContract_character (.builtin _ _))
    (.map (.andThen keepsContract_character hnext) _) _

/-- Level by level from the deepest one up. -/
theorem keepsContract_wordLevel : ∀ below, (wordLevel below).KeepsContract
  | 0 => keepsContract_level (.fail_zero _)
  | below + 1 => keepsContract_level (keepsContract_wordLevel below)

end TextParser.Words
