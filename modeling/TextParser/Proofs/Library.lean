import TextParser.Proofs.Words.Tokens

/-!
The parsers that can be put together from the recognizers, the word parsers and closures that keep
the contract. Main statement: on every text, each of them leaves a suffix or fails at a character
boundary within the text.

    closures    recognizers    word parsers
         \           |            /
          combinations, to any depth, and recursion
-/

namespace TextParser.Parser

/-- The parsers put together from recognizers, word parsers and closures that keep the contract. In
the body of a recursive parser, the parser itself is such a closure. -/
inductive Assembled : {α : Type} → Parser α → Prop
  | matching {r : Regex.Resources} {pattern : String} {p : Parser String}
    (h : (matching r pattern).value = .ok p) : Assembled p
  | matchingWithError {r : Regex.Resources} {pattern message : String} {p : Parser String}
    (h : (matchingWithError r pattern message).value = .ok p) : Assembled p
  | ofRegex (regex : Regex) (message : String) : Assembled (ofRegex regex message)
  | endOfInput : Assembled endOfInput
  | lowercase : Assembled Words.lowercase
  | uppercase : Assembled Words.uppercase
  | character : Assembled Words.character
  | digit : Assembled Words.digit
  | whitespace : Assembled Words.whitespace
  | word : Assembled Words.word
  | wordRecursive : Assembled Words.wordRecursive
  | words : Assembled Words.words
  | closure {α : Type} {p : Parser α} (h : p.KeepsContract) : Assembled p
  | andThen {α β : Type} {p : Parser α} {q : Parser β} (hp : Assembled p) (hq : Assembled q) :
    Assembled (p.andThen q)
  | orElse {α : Type} {p q : Parser α} (hp : Assembled p) (hq : Assembled q) :
    Assembled (p.orElse q)
  | orElseWithError {α : Type} {p q : Parser α} (hp : Assembled p) (hq : Assembled q)
    (message : String) : Assembled (p.orElseWithError q message)
  | map {α β : Type} {p : Parser α} (hp : Assembled p) (f : α → β) : Assembled (p.map f)
  | choice {α : Type} {ps : List (Parser α)} {p : Parser α} (hps : ∀ q ∈ ps, Assembled q)
    (h : (choice ps).value = .ok p) : Assembled p
  | keepLeft {α β : Type} {p : Parser α} {q : Parser β} (hp : Assembled p) (hq : Assembled q) :
    Assembled (p.keepLeft q)
  | keepRight {α β : Type} {p : Parser α} {q : Parser β} (hp : Assembled p) (hq : Assembled q) :
    Assembled (p.keepRight q)
  | withError {α : Type} {p : Parser α} (hp : Assembled p) (message : String) :
    Assembled (p.withError message)
  | reporting {α : Type} {p : Parser α} (hp : Assembled p) (settings : Report.Settings) :
    Assembled (p.reporting settings)
  | fix {α : Type} {body : Parser α → Parser α}
    (hbody : ∀ self : Parser α, self.KeepsContract → Assembled (body self)) :
    Assembled (fix body)

/-- The contract is kept by every rule. -/
theorem Assembled.keepsContract {α : Type} {p : Parser α} (hp : Assembled p) :
    p.KeepsContract := by
  induction hp with
  | matching h =>
    obtain ⟨regex, -, rfl⟩ := matchingWithError_eq_ok h
    exact .ofRegex regex _
  | matchingWithError h =>
    obtain ⟨regex, -, rfl⟩ := matchingWithError_eq_ok h
    exact .ofRegex regex _
  | ofRegex regex message => exact .ofRegex regex message
  | endOfInput => exact .endOfInput
  | lowercase | uppercase | digit | whitespace | word => exact .builtin _ _
  | character => exact Words.keepsContract_character
  | wordRecursive => exact Words.keepsContract_wordLevel _
  | words => exact Words.keepsContract_words
  | closure h => exact h
  | andThen _ _ ihp ihq => exact ihp.andThen ihq
  | orElse _ _ ihp ihq => exact ihp.orElse ihq
  | orElseWithError _ _ message ihp ihq => exact ihp.orElseWithError ihq message
  | map _ f ih => exact ih.map f
  | choice _ h ihps => exact .choice ihps h
  | keepLeft _ _ ihp ihq => exact ihp.keepLeft ihq
  | keepRight _ _ ihp ihq => exact ihp.keepRight ihq
  | withError _ message ih => exact ih.withError message
  | reporting _ settings ih => exact ih.reporting settings
  | fix _ ih => exact .fix ih

/-- A success of an assembled parser leaves a suffix that starts at a character boundary; a failure
lies within the text, at a character boundary. -/
theorem Assembled.result_within {α : Type} {p : Parser α} (hp : Assembled p) (input : Text) :
    (∀ a rest, (p.parse input).value = .success a rest →
      rest <:+ input ∧ input.IsBoundary (input.byteSize - rest.byteSize)) ∧
    ∀ f, (p.parse input).value = .failure f →
      f.offset ≤ input.byteSize ∧ input.IsBoundary f.offset := by
  have hc : p.KeepsContract := hp.keepsContract
  constructor
  · intro a rest h
    have hrest : rest <:+ input := hc.leavesSuffix h
    exact ⟨hrest, Text.isBoundary_sub_of_suffix hrest⟩
  · intro f h
    have hf : input.IsBoundary f.offset := hc.failsWithin h
    exact ⟨hf.le_byteSize, hf⟩

/-- A word in any number of parentheses. -/
def nestedWord : Parser String :=
  fix fun self => ((literal "(").keepRight (self.keepLeft (literal ")"))).orElse Words.word

theorem assembled_nestedWord : Assembled nestedWord := by
  refine .fix fun self hself => ?_
  have hsign : ∀ sign, Assembled (literal sign) := fun sign => .closure (.literal sign)
  exact .orElse (.keepRight (hsign _) (.keepLeft (.closure hself) (hsign _))) .word

/-- The second closing parenthesis is missing: the failure lies in front of the `é`, which has two
bytes. -/
theorem result_within_unclosed :
    (nestedWord.parse "((ab)é".toList).value = .failure ⟨5, "expected )"⟩ ∧
      5 ≤ Text.byteSize "((ab)é".toList ∧ Text.IsBoundary "((ab)é".toList 5 := by
  have h : (nestedWord.parse "((ab)é".toList).value = .failure ⟨5, "expected )"⟩ := by
    decide +kernel
  exact ⟨h, (assembled_nestedWord.result_within _).2 _ h⟩

end TextParser.Parser
