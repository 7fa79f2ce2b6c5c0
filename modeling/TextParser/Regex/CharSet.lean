import TextParser.Unicode.CaseFolding
import TextParser.Unicode.Property

/-!
Sets of characters as character classes describe them, kept as they were built and asked for one
character at a time.
-/

namespace TextParser.Regex

open Unicode

/-- A set of characters. -/
inductive CharSet where
  | empty
  | range (first last : Char)
  | property (p : Property)
  | complement (s : CharSet)
  | union (a b : CharSet)
  | inter (a b : CharSet)
  /-- With every character all its case variants. -/
  | folded (s : CharSet)
  /-- With every ASCII letter its other case. -/
  | asciiFolded (s : CharSet)
  deriving DecidableEq, Repr

namespace CharSet

/-- The other case of an ASCII letter, any other character itself. -/
def otherCase (c : Char) : Char := if c.isUpper then c.toLower else c.toUpper

/-- Whether the set holds the character `c`. -/
def contains : CharSet → Char → Bool
  | empty, _ => false
  | range first last, c => first ≤ c && c ≤ last
  | property p, c => p.contains c
  | complement s, c => !s.contains c
  | union a b, c => a.contains c || b.contains c
  | inter a b, c => a.contains c && b.contains c
  | folded s, c => (caseVariants c).any fun d => s.contains d
  | asciiFolded s, c => s.contains c || s.contains (otherCase c)

/-- The set of one character. -/
def single (c : Char) : CharSet := range c c

/-- The characters of `a` that are not in `b`. -/
def diff (a b : CharSet) : CharSet := inter a (complement b)

/-- The characters in just one of two sets. -/
def symmDiff (a b : CharSet) : CharSet := union (diff a b) (diff b a)

/-- The union of ranges. -/
def ofRanges : List (Char × Char) → CharSet
  | [] => empty
  | [(first, last)] => range first last
  | (first, last) :: more => union (range first last) (ofRanges more)

/-- Whether a set is plainly one of ASCII characters: it is built from ASCII ranges, and its
complements only take characters away. -/
def isAscii : CharSet → Bool
  | empty => true
  | range _ last => last.toNat ≤ 0x7F
  | property _ => false
  | complement _ => false
  | union a b => a.isAscii && b.isAscii
  | inter a b => a.isAscii || b.isAscii
  | folded _ => false
  | asciiFolded s => s.isAscii

/-! ### Named sets -/

/-- Every character. -/
def all : CharSet := property .any

/-- The decimal digits of all scripts. -/
def digit : CharSet := property (.category .decimalNumber)

/-- White space. -/
def space : CharSet := property .whiteSpace

/-- The characters of words. -/
def word : CharSet := property .wordCharacter

/-- The ten ASCII digits. -/
def asciiDigit : CharSet := range '0' '9'

/-- The white space of ASCII. -/
def asciiSpace : CharSet := ofRanges [('\t', '\t'), ('\n', '\n'), ('\x0b', '\r'), (' ', ' ')]

/-- ASCII letters, digits and the underscore. -/
def asciiWord : CharSet := ofRanges [('0', '9'), ('A', 'Z'), ('_', '_'), ('a', 'z')]

end CharSet

end TextParser.Regex
