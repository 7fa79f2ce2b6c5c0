import TextParser.Text
import TextParser.Unicode.Category
import TextParser.Unicode.Derived

/-!
Quoted texts: double quotes around, a backslash before quotes and backslashes, short escapes for
tab, carriage return, line feed and the null character, and `\u{…}` for whatever has no visible
form of its own.
-/

namespace TextParser.Text.Quoted

open Unicode

/-- Whether `c` has no visible form: controls, layout characters, unassigned and private code
points, separators but the space. -/
def isInvisible (c : Char) : Bool :=
  c != ' ' &&
    (CategoryGroup.other.contains c || CategoryGroup.separator.contains c)

/-- Whether `c` continues the character before it, and so would merge with an opening quote. -/
def isExtending (c : Char) : Bool :=
  Category.nonspacingMark.contains c || Category.enclosingMark.contains c ||
    Run.holds Derived.otherGraphemeExtend c

/-- The characters that stand for `c` between quotes. -/
def encodeChar (c : Char) : List Char :=
  if c = '"' ∨ c = '\\' then ['\\', c]
  else if c = '\t' then ['\\', 't']
  else if c = '\r' then ['\\', 'r']
  else if c = '\n' then ['\\', 'n']
  else if c = '\x00' then ['\\', '0']
  else if c.toNat < 0x7F then
    if c.toNat < 0x20 then codePoint c else [c]
  else if isInvisible c || isExtending c then codePoint c
  else [c]
where
  /-- The code point of `c` in hexadecimal, between braces. -/
  codePoint (c : Char) : List Char :=
    "\\u\x7b".toList ++ Nat.toDigits 16 c.toNat ++ ['}']

/-- The quoted form of a text. -/
def encode (t : Text) : List Char :=
  '"' :: t.flatMap encodeChar ++ ['"']

end TextParser.Text.Quoted
