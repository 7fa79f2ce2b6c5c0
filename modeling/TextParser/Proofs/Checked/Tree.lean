import Mathlib.Algebra.GroupWithZero.Nat
import TextParser.Proofs.Checked.Words
import TextParser.Proofs.Tree.Leaf

/-!
Trees with checked places. Main statement: over recognizers, word parsers and closures that keep to
the contract, nothing goes wrong in a run, even if no place may get beyond the length of the
outermost input; and nothing goes wrong in a report, wherever the failure is.

    tree        seq               checked     andThen limit
               /   \                          /           \
            leaf   leaf                 checked leaf   checked leaf
-/

namespace TextParser.Tree

/-- The leaves: recognizers, word parsers and closures that keep to the contract. -/
inductive Leaf : {α : Type} → Parser α → Type 1
  | matching (r : Regex.Resources) (pattern message : String) {p : Parser String}
    (h : (Parser.matchingWithError r pattern message).value = .ok p) : Leaf p
  | ofRegex (regex : Regex) (message : String) : Leaf (Parser.ofRegex regex message)
  | endOfInput : Leaf Parser.endOfInput
  | lowercase : Leaf Words.lowercase
  | uppercase : Leaf Words.uppercase
  | character : Leaf Words.character
  | digit : Leaf Words.digit
  | whitespace : Leaf Words.whitespace
  | word : Leaf Words.word
  | wordRecursive : Leaf Words.wordRecursive
  | words : Leaf Words.words
  | closure {α : Type} {p : Parser α} (h : p.StaysWithin) : Leaf p

/-- The leaf with its places checked. -/
def Leaf.checked (limit : Nat) : {α : Type} → {p : Parser α} → Leaf p → Checked α
  | _, _, matching r pattern message _ => .matching r pattern message
  | _, _, ofRegex regex message => .ofRegex regex message
  | _, _, endOfInput => .ofParser Parser.endOfInput
  | _, _, lowercase => .matching .standard "[a-z]" (Parser.couldNotMatch "[a-z]")
  | _, _, uppercase => .matching .standard "[A-Z]" (Parser.couldNotMatch "[A-Z]")
  | _, _, character => .character
  | _, _, digit => .matching .standard "[0-9]" (Parser.couldNotMatch "[0-9]")
  | _, _, whitespace => .matching .standard "\\s+" (Parser.couldNotMatch "\\s+")
  | _, _, word => .matching .standard "[a-zA-Z]+" Words.wordError
  | _, _, wordRecursive => .wordRecursive limit
  | _, _, words => .words limit
  | _, p, closure _ => .ofParser p

/-- What each leaf of a tree is. -/
def Leaves : {α : Type} → Tree α → Type 1
  | _, leaf p => Leaf p
  | _, seq a b => a.Leaves × b.Leaves
  | _, or a b => a.Leaves × b.Leaves
  | _, map _ t => t.Leaves
  | _, withError _ t => t.Leaves
  | _, report _ t => t.Leaves

/-- The parser of a tree with all places checked, none of which may get beyond `limit`. -/
def checked (limit : Nat) : {α : Type} → (t : Tree α) → t.Leaves → Checked α
  | _, leaf _, l => Leaf.checked limit l
  | _, seq a b, l => (a.checked limit l.1).andThen limit (b.checked limit l.2)
  | _, or a b, l => (a.checked limit l.1).orElse (b.checked limit l.2)
  | _, map f t, l => (t.checked limit l).map f
  | _, withError message t, l => (t.checked limit l).withError message
  | _, report settings t, l => (t.checked limit l).reporting settings

variable {α : Type}

theorem Leaf.checks (limit : Nat) {p : Parser α} (l : Leaf p) :
    Checks limit (l.checked limit) p := by
  cases l with
  | matching r pattern message h => exact .matching h
  | ofRegex regex message => exact .ofRegex regex message
  | endOfInput => exact .ofParser Parser.KeepsContract.endOfInput.staysWithin
  | lowercase | uppercase | digit | whitespace | word =>
    rw [checked]
    exact .builtin _ _
  | character => exact .character
  | wordRecursive => exact .wordLevel _
  | words => exact .words
  | closure h => exact .ofParser h

/-- By induction over the tree, from the leaves up. -/
theorem checks (limit : Nat) (t : Tree α) (l : t.Leaves) :
    Checks limit (t.checked limit l) t.parser := by
  induction t with
  | leaf p => exact Leaf.checks limit l
  | seq a b iha ihb => exact (iha l.1).andThen (ihb l.2)
  | or a b iha ihb => exact (iha l.1).orElse (ihb l.2)
  | map f t ih => exact (ih l).map f
  | withError message t ih => exact (ih l).withError message
  | report settings t ih => exact (ih l).reporting settings

/-- Nothing goes wrong with a place: not in a run of a tree, where none gets beyond the end of the
input and so none beyond 64 bits, not in the number of bytes that a success took, and not in a
report of any failure in any text. -/
theorem parse?_checked (t : Tree α) (l : t.Leaves) (input : Text) :
    (t.checked input.byteSize l).parse? input = some (t.parser.parse input) ∧
      (input.byteSize < 2 ^ 63 →
        (t.checked (2 ^ 64 - 1) l).parse? input = some (t.parser.parse input)) ∧
      (t.parser.parse input).value.checkedConsumed? input =
        some ((t.parser.parse input).value.consumed? input) ∧
      ∀ (text : Text) (f : Failure) (context : Nat),
        Report.render? text f context = some (Report.render text f context) ∧
          ∃ p, Report.places? text f.offset context = some p ∧ p.Within text := by
  have hsize := t.checks input.byteSize l
  refine ⟨hsize.parse?_eq (Nat.le_refl _), fun hbits => ?_, ?_, fun text f context => ?_⟩
  · exact (t.checks (2 ^ 64 - 1) l).parse?_eq (by omega)
  · exact Parsed.checkedConsumed?_eq fun a rest h => hsize.staysWithin.leavesSuffix h
  · exact ⟨Report.render?_eq text f context, Report.places?_within text f.offset context⟩

/-- A sign of two bytes, a word and the end of the text, with reports. -/
def signedWord : Tree (String × String × PUnit) :=
  report ⟨2, .standardError⟩
    (seq (leaf (Parser.literal "é")) (seq (leaf Words.word) (leaf Parser.endOfInput)))

/-- What the leaves of `signedWord` are. -/
def signedWordLeaves : signedWord.Leaves :=
  (.closure (Parser.KeepsContract.literal "é").staysWithin, .word, .endOfInput)

/-- The failure is moved on twice, by the word and by the sign. -/
theorem parse?_checked_signedWord :
    Text.byteSize "éab1".toList < 2 ^ 63 ∧
      (signedWord.checked (2 ^ 64 - 1) signedWordLeaves).parse? "éab1".toList =
        some ⟨.failure ⟨4, "Error: Expected end of input"⟩,
          [.reporting 4,
            .printed "Error: Expected end of input (at offset 4)\n  | ab1\n  |   ^"]⟩ := by
  have hbits : Text.byteSize "éab1".toList < 2 ^ 63 := by decide
  refine ⟨hbits, ?_⟩
  rw [(parse?_checked signedWord signedWordLeaves _).2.1 hbits]
  decide +kernel

end TextParser.Tree
