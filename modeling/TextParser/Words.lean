import TextParser.Recognizer
import TextParser.Regex.Standard

/-!
Parsers for ASCII letters, digits, white space and words.

`word` is a single recognizer. `wordRecursive` builds nearly the same from `character` and
`whitespace`, a level for every letter:

    level 1   letter, blanks          a word of one letter
              or letter, level 2
    level 2   letter, blanks
              or letter, level 3 …

When both of its alternatives fail, a level tells the failure of the first one; what the deeper
levels came upon is not told.
-/

namespace TextParser.Words

/-- The parser of a pattern that is known to be accepted. -/
def builtin (pattern message : String) : Parser String :=
  match (Parser.matchingWithError .standard pattern message).value with
  | .ok p => p
  | .error _ => Parser.fail 0 message

/-! ### Characters -/

/-- An ASCII lowercase letter. -/
def lowercase : Parser String := builtin "[a-z]" (Parser.couldNotMatch "[a-z]")

/-- An ASCII uppercase letter. -/
def uppercase : Parser String := builtin "[A-Z]" (Parser.couldNotMatch "[A-Z]")

/-- An ASCII letter. -/
def character : Parser String :=
  lowercase.orElseWithError uppercase "Error: Could not match character"

/-- An ASCII digit. -/
def digit : Parser String := builtin "[0-9]" (Parser.couldNotMatch "[0-9]")

/-- A run of white space that is not empty. -/
def whitespace : Parser String := builtin "\\s+" (Parser.couldNotMatch "\\s+")

/-- A run of white space, which may be empty. -/
def optionalWhitespace : Parser String := builtin "\\s*" (Parser.couldNotMatch "\\s*")

/-! ### Words -/

/-- What is said where there is no word. -/
def wordError : String := "Error: Could not match word"

/-- A run of ASCII letters that is not empty. -/
def word : Parser String := builtin "[a-zA-Z]+" wordError

/-- The most letters that `wordRecursive` takes. -/
def maxRecursiveWordLength : Nat := 256

/-- The level of `wordRecursive` with `below` levels below it. -/
def wordLevel : (below : Nat) → Parser String
  | 0 => level (Parser.fail 0 wordError)
  | below + 1 => level (wordLevel below)
where
  /-- A letter and blanks, or a letter and `next`. -/
  level (next : Parser String) : Parser String :=
    (character.keepLeft whitespace).orElseWithError
      ((character.andThen next).map fun (first, rest) => first ++ rest) wordError

/-- A word of at most 256 letters with the white space after it, of which there has to be some;
its value is the letters alone. -/
def wordRecursive : Parser String := wordLevel (maxRecursiveWordLength - 1)

/-! ### Lists of words -/

/-- A word and the white space after it. -/
def token : Parser String := word.keepLeft optionalWhitespace

/-- Takes tokens until nothing is left; `size` is the byte length of the whole text, in which
failures tell their place. -/
def tokens (size : Nat) : Text → Logged (Parsed (List String))
  | [] => pure (.success [] [])
  | c :: rest => do
    match ← token.parse (c :: rest) with
    | .failure f => return (Parsed.failure f).shifted (size - Text.byteSize (c :: rest))
    | .success first next =>
      if _h : next.length < (c :: rest).length then
        return (← tokens size next).map (first :: ·)
      else return .failure ⟨0, Parser.noProgress⟩
termination_by t => t.length
decreasing_by exact _h

/-- A list of words separated by white space, which may also stand before and after them. Nothing
else may be in the text. -/
def words : Parser (List String) where
  parse input := do
    match ← optionalWhitespace.parse input with
    | .failure f => return .failure f
    | .success _ rest => do
      match ← tokens input.byteSize rest with
      | .failure f => return .failure f
      | .success list rest => do
        Logged.record (.parsedWords list.length)
        return .success list rest

end TextParser.Words
