import TextParser.Text.Quoted

/-!
Failures: where a text did not match, and what is said of it.

A failure tells its place in bytes from the front of the text that the failing parser was given.
Whoever gave it only the rest of a longer text moves the failure on by what came before:

    whole text   ab=x            ab= consumed, then
    rest            x            failure at 0, which is 3 in the whole text
-/

namespace TextParser

/-- A place in a text, in bytes, and a message. -/
structure Failure where
  offset : Nat
  message : String
  deriving DecidableEq, Repr

namespace Failure

/-- The same failure seen from `consumed` bytes further to the front. -/
def shifted (f : Failure) (consumed : Nat) : Failure :=
  { f with offset := f.offset + consumed }

/-- The same failure with another message. -/
def withMessage (f : Failure) (message : String) : Failure :=
  { f with message }

/-- A failure in one line: the place, a colon and the message. -/
def display (f : Failure) : String := s!"{f.offset}: {f.message}"

/-- A failure with its fields named and its message quoted. -/
def debug (f : Failure) : String :=
  let quoted := String.ofList (Text.Quoted.encode f.message.toList)
  s!"SyntaxError \x7b offset: {f.offset}, msg: {quoted} \x7d"

end Failure

end TextParser
