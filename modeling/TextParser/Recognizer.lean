import TextParser.Build
import TextParser.Parser

/-!
Recognizers: parsers that take the text a regular expression matches at the front of theirs.

A pattern is pasted into `^(?:…)` and compiled as a whole, so that it matches nowhere else. What it
is compiled with is given as resources `r`.
-/

universe u

namespace TextParser

namespace Parser

/-- Takes what `regex` matches, if its leftmost match stands at the front. -/
def ofRegex (regex : Regex) (message : String) : Parser String where
  parse input :=
    match regex.find? input with
    | some ⟨[], text, rest⟩ => pure (.success (String.ofList text) rest)
    | _ => pure (.failure ⟨0, message⟩)

/-- The expression that ties a pattern to the front of the text. -/
def anchoredPattern (pattern : String) : Text :=
  ['^', '(', '?', ':'] ++ pattern.toList ++ [')']

variable (r : Regex.Resources)

/-- A recognizer for `pattern` that fails with `message`. -/
def matchingWithError (pattern message : String) : Build (Parser String) :=
  match Regex.compile r (anchoredPattern pattern) with
  | .error e => Build.throw (.invalidPattern pattern e)
  | .ok regex => do
    Build.record (.compiled pattern)
    return ofRegex regex message

/-- What a recognizer says unless told otherwise. -/
def couldNotMatch (pattern : String) : String := s!"Error: Could not match /{pattern}/"

/-- A recognizer for `pattern`. -/
def matching (pattern : String) : Build (Parser String) :=
  matchingWithError r pattern (couldNotMatch pattern)

/-- A recognizer for a regular expression of its own, which need not be tied to the front. -/
def matchingRegex (expr message : String) : Build (Parser String) :=
  match Regex.compile r expr.toList with
  | .error e => Build.throw (.invalidRegex e)
  | .ok regex => return ofRegex regex message

/-- The first of some parsers that succeeds. -/
def choice {α : Type u} (ps : List (Parser α)) : Build (Parser α) := Build.choice orElse ps

end Parser

end TextParser
