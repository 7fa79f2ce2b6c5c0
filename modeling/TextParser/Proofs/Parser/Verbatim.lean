import TextParser.Proofs.Parser.Recognizer

/-!
Parsers whose values spell what they take. Main statement: however such parsers are put together,
the text of the value and the rest are the input again, so nothing is lost, doubled or moved.

    input     ab␣c              rest   c
    value     (("a", "b"), "␣") text   ab␣

An alternative that fails half way has taken nothing: the next one starts on the same text.
-/

namespace TextParser

/-- Values that spell a text. -/
class Spelled (α : Type) where
  /-- The text that a value spells. -/
  text : α → Text

namespace Spelled

instance : Spelled String := ⟨String.toList⟩

instance : Spelled PUnit := ⟨fun _ => []⟩

instance {α β : Type} [Spelled α] [Spelled β] : Spelled (α × β) :=
  ⟨fun pair => text pair.1 ++ text pair.2⟩

theorem text_string (s : String) : text s = s.toList := rfl

theorem text_pair {α β : Type} [Spelled α] [Spelled β] (a : α) (b : β) :
    text (a, b) = text a ++ text b := rfl

end Spelled

namespace Parser

open Spelled (text)

variable {α β : Type} [Spelled α] [Spelled β]

/-- Whether the value of a success always spells what was taken. -/
def KeepsText (p : Parser α) : Prop :=
  ∀ ⦃input : Text⦄ ⦃a : α⦄ ⦃rest : Text⦄,
    (p.parse input).value = .success a rest → text a ++ rest = input

namespace KeepsText

/-! ### Combinations -/

/-- What the first part takes and what the second one takes of the rest follow each other in the
text. -/
theorem andThen {p : Parser α} {q : Parser β} (hp : p.KeepsText) (hq : q.KeepsText) :
    (p.andThen q).KeepsText := by
  rintro input ⟨a, b⟩ rest h
  obtain ⟨middle, ha, hb⟩ := andThen_eq_success_iff.1 h
  rw [Spelled.text_pair, List.append_assoc, hq hb, hp ha]

/-- Both alternatives start on the same text. -/
theorem orElse {p q : Parser α} (hp : p.KeepsText) (hq : q.KeepsText) :
    (p.orElse q).KeepsText := by
  intro input a rest h
  rcases orElse_eq_success h with h | h
  · exact hp h
  · exact hq h

theorem map {p : Parser α} (hp : p.KeepsText) {f : α → β} (hf : ∀ a, text (f a) = text a) :
    (p.map f).KeepsText := by
  intro input b rest h
  rw [parse_map] at h
  obtain ⟨a, ha, rfl⟩ := Parsed.map_eq_success_iff.1 h
  rw [hf, hp ha]

theorem withError {p : Parser α} (hp : p.KeepsText) (message : String) :
    (p.withError message).KeepsText :=
  fun _ _ _ h => hp (withError_eq_success_iff.1 h)

theorem orElseWithError {p q : Parser α} (hp : p.KeepsText) (hq : q.KeepsText)
    (message : String) : (p.orElseWithError q message).KeepsText :=
  (hp.orElse hq).withError message

theorem reporting {p : Parser α} (hp : p.KeepsText) (settings : Report.Settings) :
    (p.reporting settings).KeepsText := by
  intro input a rest h
  rw [value_reporting] at h
  exact hp h

theorem choice {ps : List (Parser α)} {p : Parser α} (hps : ∀ q ∈ ps, q.KeepsText)
    (h : (Parser.choice ps).value = .ok p) : p.KeepsText :=
  choice_of_orElse (fun hp hq => hp.orElse hq) hps h

/-! ### Recognizers -/

theorem fail (offset : Nat) (message : String) :
    (Parser.fail offset message : Parser α).KeepsText :=
  fun _ _ _ h => (by cases h)

theorem endOfInput : Parser.endOfInput.KeepsText := by
  rintro (_ | ⟨c, input⟩) a rest ⟨⟩
  rfl

/-- A match at the front is cut off where it ends, whatever the expression may match elsewhere. -/
theorem ofRegex (regex : Regex) (message : String) : (Parser.ofRegex regex message).KeepsText := by
  intro input value rest h
  obtain ⟨taken, hfound, rfl⟩ := ofRegex_eq_success_iff.1 h
  rw [Spelled.text_string, String.toList_ofList]
  exact (Regex.find?_eq_append hfound).symm

theorem matchingWithError {r : Regex.Resources} {pattern message : String} {p : Parser String}
    (h : (Parser.matchingWithError r pattern message).value = .ok p) : p.KeepsText := by
  obtain ⟨regex, -, rfl⟩ := matchingWithError_eq_ok h
  exact ofRegex regex message

theorem builtin (pattern message : String) : (Words.builtin pattern message).KeepsText := by
  rw [Words.builtin]
  split
  · exact matchingWithError ‹_›
  · exact fail 0 message

end KeepsText

/-! ### All of them -/

/-- The parsers put together from recognizers, and from closures that spell what they take, by
combinations that keep the text of values. -/
inductive Verbatim : {α : Type} → [Spelled α] → Parser α → Prop
  | matching {r : Regex.Resources} {pattern : String} {p : Parser String}
    (h : (matching r pattern).value = .ok p) : Verbatim p
  | matchingWithError {r : Regex.Resources} {pattern message : String} {p : Parser String}
    (h : (matchingWithError r pattern message).value = .ok p) : Verbatim p
  | ofRegex (regex : Regex) (message : String) : Verbatim (ofRegex regex message)
  | endOfInput : Verbatim endOfInput
  | lowercase : Verbatim Words.lowercase
  | uppercase : Verbatim Words.uppercase
  | character : Verbatim Words.character
  | digit : Verbatim Words.digit
  | whitespace : Verbatim Words.whitespace
  | word : Verbatim Words.word
  | closure {α : Type} [Spelled α] {p : Parser α} (h : p.KeepsText) : Verbatim p
  | andThen {α β : Type} [Spelled α] [Spelled β] {p : Parser α} {q : Parser β} (hp : Verbatim p)
    (hq : Verbatim q) : Verbatim (p.andThen q)
  | orElse {α : Type} [Spelled α] {p q : Parser α} (hp : Verbatim p) (hq : Verbatim q) :
    Verbatim (p.orElse q)
  | orElseWithError {α : Type} [Spelled α] {p q : Parser α} (hp : Verbatim p) (hq : Verbatim q)
    (message : String) : Verbatim (p.orElseWithError q message)
  | choice {α : Type} [Spelled α] {ps : List (Parser α)} {p : Parser α}
    (hps : ∀ q ∈ ps, Verbatim q) (h : (choice ps).value = .ok p) : Verbatim p
  | withError {α : Type} [Spelled α] {p : Parser α} (hp : Verbatim p) (message : String) :
    Verbatim (p.withError message)
  | reporting {α : Type} [Spelled α] {p : Parser α} (hp : Verbatim p)
    (settings : Report.Settings) : Verbatim (p.reporting settings)
  | map {α β : Type} [Spelled α] [Spelled β] {p : Parser α} (hp : Verbatim p) {f : α → β}
    (hf : ∀ a, text (f a) = text a) : Verbatim (p.map f)

/-- The text is kept by every rule. -/
theorem Verbatim.keepsText {p : Parser α} (hp : Verbatim p) : p.KeepsText := by
  induction hp with
  | matching h | matchingWithError h => exact .matchingWithError h
  | ofRegex regex message => exact .ofRegex regex message
  | endOfInput => exact .endOfInput
  | lowercase | uppercase | digit | whitespace | word => exact .builtin _ _
  | character => exact .orElseWithError (.builtin _ _) (.builtin _ _) _
  | closure h => exact h
  | andThen _ _ ihp ihq => exact ihp.andThen ihq
  | orElse _ _ ihp ihq => exact ihp.orElse ihq
  | orElseWithError _ _ message ihp ihq => exact ihp.orElseWithError ihq message
  | choice _ h ihps => exact .choice ihps h
  | withError _ message ih => exact ih.withError message
  | reporting _ settings ih => exact ih.reporting settings
  | map _ hf ih => exact ih.map hf

/-- The text of the value and the rest are the input, and the bytes consumed are those of the
text. -/
theorem Verbatim.text_append_rest {p : Parser α} (hp : Verbatim p) {input rest : Text} {a : α}
    (h : (p.parse input).value = .success a rest) :
    text a ++ rest = input ∧
      (p.parse input).value.consumed? input = some (Text.byteSize (text a)) := by
  have hsplit : text a ++ rest = input := hp.keepsText h
  refine ⟨hsplit, ?_⟩
  rw [h, ← hsplit]
  simp only [Parsed.consumed?, Parsed.rest?, Option.map_some, Text.byteSize_append,
    Nat.add_sub_cancel]

/-- A letter, by a pattern whose second half stands outside of the group that it is pasted into. -/
def looseLetter : Parser String := Words.builtin "é)|(?:b" "no letter"

theorem verbatim_looseLetter : Verbatim looseLetter := by
  have h : (matchingWithError .standard "é)|(?:b" "no letter").value = .ok looseLetter := rfl
  exact .matchingWithError h

/-- Two letters at the end of the text, joined, or else one letter. -/
def looseEnding : Parser String :=
  .orElse
    (.map (·.1)
      (.andThen (.map (fun (a, b) => a ++ b) (looseLetter.andThen looseLetter)) endOfInput))
    looseLetter

theorem verbatim_looseEnding : Verbatim looseEnding := by
  have hjoin : ∀ pair : String × String, text (pair.1 ++ pair.2) = text pair :=
    fun _ => String.toList_append
  have hfirst : ∀ pair : String × PUnit, text pair.1 = text pair :=
    fun _ => (List.append_nil _).symm
  exact .orElse
    (.map (.andThen (.map (.andThen verbatim_looseLetter verbatim_looseLetter) hjoin) .endOfInput)
      hfirst)
    verbatim_looseLetter

/-- The first alternative takes `éb` before it fails; the second one starts again at `é`. -/
theorem text_append_rest_looseEnding :
    (looseEnding.parse "éb+".toList).value = .success "é" "b+".toList ∧
      text "é" ++ "b+".toList = "éb+".toList ∧
      (looseEnding.parse "éb+".toList).value.consumed? "éb+".toList = some 2 := by
  have h : (looseEnding.parse "éb+".toList).value = .success "é" "b+".toList := by decide +kernel
  exact ⟨h, verbatim_looseEnding.text_append_rest h⟩

end Parser

end TextParser
