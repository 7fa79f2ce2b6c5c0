import TextParser.Proofs.Parser.Recognizer
import TextParser.Proofs.Regex.Anchored

/-!
Recognizers by what their patterns match.

    pattern p     the first of the ways of p at the front, or else a failure there
-/

namespace TextParser.Parser

/-- A recognizer takes the preferred match at the front. -/
theorem parse_ofRegex (regex : Regex) (message : String) (input : Text) :
    (ofRegex regex message).parse input =
      match regex.matchHere none input with
      | some (text, rest) => ⟨.success (String.ofList text) rest, []⟩
      | none => ⟨.failure ⟨0, message⟩, []⟩ := by
  cases hm : regex.matchHere none input with
  | some m => exact parse_ofRegex_of_match message (Regex.find?_eq_front_iff.2 hm)
  | none =>
    refine parse_ofRegex_of_no_match message fun text rest hf => ?_
    rw [Regex.find?_eq_front_iff.1 hf] at hm
    cases hm

/-- A recognizer for a pattern takes the first way of that pattern. -/
theorem parse_ofRegex_ofPattern (p : Regex.Pattern) (message : String) (input : Text) :
    (ofRegex (.ofPattern p) message).parse input =
      match (p.ways none input).head? with
      | some (text, rest) => ⟨.success (String.ofList text) rest, []⟩
      | none => ⟨.failure ⟨0, message⟩, []⟩ := by
  rw [parse_ofRegex, Regex.matchHere_ofPattern]

/-- Tied to the start of the text, a recognizer does what it does untied. -/
theorem ofRegex_anchored (p : Regex.Pattern) (message : String) :
    ofRegex (.ofPattern (.seq (.look .textStart) p)) message = ofRegex (.ofPattern p) message := by
  refine eq_of_parse_eq fun input => ?_
  rw [parse_ofRegex_ofPattern, parse_ofRegex_ofPattern, Regex.Pattern.ways_anchored]

end TextParser.Parser
