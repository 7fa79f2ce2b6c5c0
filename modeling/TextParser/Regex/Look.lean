import TextParser.Regex.CharSet

/-!
Assertions: what may be asked of the place between two characters without consuming any.

Words are made of word characters; a word boundary is a place with a word character on one side
only.

    a b   c d          | boundary
   |   |  |   |        the start of a word: nothing before, a word character after
-/

namespace TextParser.Regex

/-- What an assertion on words asks for. -/
inductive WordSide where
  | boundary | inside | start | stop | startHalf | stopHalf
  deriving DecidableEq, Repr

/-- An assertion on the place between two characters. -/
inductive Look where
  | textStart
  | textEnd
  | lineStart
  | lineEnd
  /-- The start of a line, where a line ends with a carriage return, a line feed or both. -/
  | crlfStart
  /-- The end of such a line. -/
  | crlfEnd
  | word (side : WordSide) (unicode : Bool)
  deriving DecidableEq, Repr

namespace WordSide

/-- Whether the assertion holds with a word character before and after as told. -/
def holds : WordSide → (before after : Bool) → Bool
  | boundary, before, after => before != after
  | inside, before, after => before == after
  | start, before, after => !before && after
  | stop, before, after => before && !after
  | startHalf, before, _ => !before
  | stopHalf, _, after => !after

end WordSide

namespace Look

/-- Whether a character is there and in the set `s`. -/
def within (s : CharSet) (c : Option Char) : Bool := c.any s.contains

/-- Whether the assertion holds between `before` and `after`; at the ends of the text there is no
such character. -/
def holds : Look → (before after : Option Char) → Bool
  | textStart, before, _ => before.isNone
  | textEnd, _, after => after.isNone
  | lineStart, before, _ => before.isNone || before == some '\n'
  | lineEnd, _, after => after.isNone || after == some '\n'
  | crlfStart, before, after =>
    before.isNone || before == some '\n' || (before == some '\r' && after != some '\n')
  | crlfEnd, before, after =>
    after.isNone || after == some '\r' || (after == some '\n' && before != some '\r')
  | word side unicode, before, after =>
    let s := if unicode then CharSet.word else CharSet.asciiWord
    side.holds (within s before) (within s after)

end Look

end TextParser.Regex
