import TextParser.Proofs.Checked.Parser
import TextParser.Proofs.Words.Tokens

/-!
The word parsers with checked places. They are put together like those without checks; only the loop
of a list of words moves failures on by itself.

    input     skipped | token token … | text of this round
                                        not longer than the input, for it is a suffix of that
-/

namespace TextParser

namespace Checked

open Words (wordError)

/-- An ASCII letter. -/
def character : Checked String :=
  ((matching .standard "[a-z]" (Parser.couldNotMatch "[a-z]")).orElse
    (matching .standard "[A-Z]" (Parser.couldNotMatch "[A-Z]"))).withError
      "Error: Could not match character"

/-- A run of white space, which may be empty. -/
def optionalWhitespace : Checked String := matching .standard "\\s*" (Parser.couldNotMatch "\\s*")

/-- The level of `wordRecursive` with `below` levels below it. -/
def wordLevel (limit : Nat) : (below : Nat) → Checked String
  | 0 => level (ofParser (Parser.fail 0 wordError))
  | below + 1 => level (wordLevel limit below)
where
  /-- A letter and blanks, or a letter and `next`. -/
  level (next : Checked String) : Checked String :=
    ((map (·.1) (character.andThen limit
        (matching .standard "\\s+" (Parser.couldNotMatch "\\s+")))).orElse
      (map (fun (first, rest) => first ++ rest) (character.andThen limit next))).withError wordError

/-- A word of at most 256 letters with the white space after it. -/
def wordRecursive (limit : Nat) : Checked String :=
  wordLevel limit (Words.maxRecursiveWordLength - 1)

/-- A word and the white space after it. -/
def token (limit : Nat) : Checked String :=
  map (·.1) ((matching .standard "[a-zA-Z]+" wordError).andThen limit optionalWhitespace)

/-- Takes tokens until nothing is left; `size` is the byte length of the whole text. -/
def tokens? (limit size : Nat) : Text → Option (Logged (Parsed (List String)))
  | [] => some (pure (.success [] []))
  | c :: rest => do
    let first ← (token limit).parse? (c :: rest)
    match first.value with
    | .failure f =>
      let consumed ← Place.sub? size (Text.byteSize (c :: rest))
      let moved ← (Parsed.failure f).shifted? limit consumed
      return ⟨moved, first.log⟩
    | .success word next =>
      if _h : next.length < (c :: rest).length then do
        let others ← tokens? limit size next
        return ⟨others.value.map (word :: ·), first.log ++ others.log⟩
      else return ⟨.failure ⟨0, Parser.noProgress⟩, first.log⟩
termination_by t => t.length
decreasing_by exact _h

/-- A list of words separated by white space. -/
def words (limit : Nat) : Checked (List String) where
  parse? input := do
    let skipped ← optionalWhitespace.parse? input
    match skipped.value with
    | .failure f => return ⟨.failure f, skipped.log⟩
    | .success _ rest =>
      let list ← tokens? limit input.byteSize rest
      match list.value with
      | .failure f => return ⟨.failure f, skipped.log ++ list.log⟩
      | .success ws rest =>
        return ⟨.success ws rest, skipped.log ++ (list.log ++ [.parsedWords ws.length])⟩

end Checked

namespace Checks

open Words

variable {limit : Nat}

theorem character : Checks limit .character Words.character :=
  .withError (.orElse (.builtin _ _) (.builtin _ _)) _

theorem level {next : Checked String} {p : Parser String} (hnext : Checks limit next p) :
    Checks limit (Checked.wordLevel.level limit next) (wordLevel.level p) :=
  .withError (.orElse (.map (.andThen character (.builtin _ _)) _)
    (.map (.andThen character hnext) _)) _

/-- Level by level from the deepest one up. -/
theorem wordLevel : ∀ below, Checks limit (.wordLevel limit below) (Words.wordLevel below)
  | 0 => level (.ofParser (Parser.KeepsContract.fail_zero _).staysWithin)
  | below + 1 => level (wordLevel below)

theorem optionalWhitespace : Checks limit .optionalWhitespace Words.optionalWhitespace :=
  .builtin _ _

theorem token : Checks limit (.token limit) Words.token :=
  .map (.andThen (.builtin _ _) optionalWhitespace) _

/-- Every round of the loop runs on a suffix of the input. -/
theorem tokens?_eq {input : Text} (hinput : input.byteSize ≤ limit) (t : Text) (ht : t <:+ input) :
    Checked.tokens? limit input.byteSize t = some (tokens input.byteSize t) := by
  induction hn : t.length using Nat.strongRecOn generalizing t with
  | ind n ih =>
    subst hn
    cases t with
    | nil =>
      rw [tokens_nil, Checked.tokens?]
      rfl
    | cons c rest =>
      have hne : c :: rest ≠ [] := List.cons_ne_nil c rest
      have hle : Text.byteSize (c :: rest) ≤ input.byteSize := Text.byteSize_le_of_suffix ht
      have htoken : Checks limit (.token limit) Words.token := token
      have hrun := htoken.parse?_eq (Nat.le_trans hle hinput)
      rw [Checked.tokens?]
      cases htok : (Words.token.parse (c :: rest)).value with
      | failure f =>
        have hmoved : (Parsed.failure f : Parsed (List String)).shifted? limit
            (input.byteSize - Text.byteSize (c :: rest)) = some ((Parsed.failure f).shifted
              (input.byteSize - Text.byteSize (c :: rest))) := by
          refine Parsed.shifted?_eq ?_
          rintro _ ⟨⟩
          have hf := keepsContract_token.staysWithin.failsAt htok
          exact Nat.le_trans (Parser.StaysWithin.add_sub_le hf ht) hinput
        rw [tokens_of_failure hne htok]
        simp only [hrun, htok, Place.sub?_of_le hle, hmoved, Option.bind_eq_bind, Option.bind_some,
          Option.pure_def, Parsed.shifted_failure]
      | success first next =>
        by_cases hlt : next.length < (c :: rest).length
        · have hnext : next <:+ input := (keepsContract_token.leavesSuffix htok).trans ht
          rw [tokens_of_success hne htok hlt]
          simp only [hrun, htok, hlt, dite_true, ih next.length hlt next hnext rfl,
            Option.bind_eq_bind, Option.bind_some, Option.pure_def]
        · rw [tokens_of_no_progress hne htok hlt]
          simp only [hrun, htok, hlt, dite_false, Option.bind_eq_bind, Option.bind_some,
            Option.pure_def]

theorem words : Checks limit (.words limit) Words.words := by
  refine ⟨keepsContract_words.staysWithin, fun input hinput => ?_⟩
  have hblanks : Checks limit .optionalWhitespace Words.optionalWhitespace := optionalWhitespace
  have hskip := hblanks.parse?_eq hinput
  cases hs : (Words.optionalWhitespace.parse input).value with
  | failure f =>
    rw [parse_words_of_skip_failure hs]
    simp [Checked.words, hskip, hs]
  | success skipped t =>
    have hlist := tokens?_eq hinput t (keepsContract_optionalWhitespace.leavesSuffix hs)
    cases ht : (tokens input.byteSize t).value with
    | failure f =>
      rw [parse_words_of_failure hs ht]
      simp [Checked.words, hskip, hs, hlist, ht]
    | success list rest =>
      rw [parse_words_of_success hs ht]
      simp [Checked.words, hskip, hs, hlist, ht]

end Checks

end TextParser
