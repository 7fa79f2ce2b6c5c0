import TextParser.Regex.Look

/-!
Patterns: what a regular expression means once flags, groups and escapes are resolved.

Where several texts match, the one preferred comes first: the left alternative before the right
one, one more round before none if a repetition is greedy, none before one more if it is not.
-/

namespace TextParser.Regex

/-- A pattern over texts. -/
inductive Pattern where
  | empty
  | set (s : CharSet)
  | look (l : Look)
  | seq (first second : Pattern)
  | alt (first second : Pattern)
  /-- At least `min` rounds of `body`, and at most `max` if that is given. -/
  | times (body : Pattern) (min : Nat) (max : Option Nat) (greedy : Bool)
  deriving DecidableEq, Repr

namespace Pattern

/-- Whether, assertions aside, the pattern matches the empty text. -/
def mayBeEmpty : Pattern → Bool
  | empty => true
  | set _ => false
  | look _ => true
  | seq p q => p.mayBeEmpty && q.mayBeEmpty
  | alt p q => p.mayBeEmpty || q.mayBeEmpty
  | times p min _ _ => min == 0 || p.mayBeEmpty

/-- Whether the pattern plainly matches at the start of a text only. -/
def isAnchored : Pattern → Bool
  | empty => false
  | set _ => false
  | look l => l == .textStart
  | seq p q => p.isAnchored || q.isAnchored
  | alt p q => p.isAnchored && q.isAnchored
  | times p min _ _ => min != 0 && p.isAnchored

end Pattern

end TextParser.Regex
