import TextParser.Regex.Flags
import TextParser.Regex.Look
import TextParser.Regex.Refusal

/-!
Expressions: regular expressions as they are written, with the stretches that a fault of meaning
would have to mark.
-/

namespace TextParser.Regex

/-- A character that stands for itself. `isByte` tells that it was written as two hexadecimal
digits, which without Unicode mean a byte. -/
structure Literal where
  char : Char
  isByte : Bool := false
  deriving DecidableEq, Repr

/-- The classes written as a backslash and a letter. -/
inductive ShortClass where
  | digit | space | word
  deriving DecidableEq, Repr

/-- The classes written `[:name:]`. -/
inductive AsciiClass where
  | alnum | alpha | ascii | blank | cntrl | digit | graph | lower | print | punct | space | upper
  | word | xdigit
  deriving DecidableEq, Repr

/-- A property asked for by name, or by an axis and a value on it. -/
inductive PropertyQuery where
  | named (name : Text)
  | valued (name value : Text)
  deriving DecidableEq, Repr

/-- What stands for one character. -/
inductive Atom where
  | literal (l : Literal)
  | short (c : ShortClass) (negated : Bool)
  | property (q : PropertyQuery) (negated : Bool)
  deriving DecidableEq, Repr

/-- What an escape stands for: a character, or an assertion. -/
inductive Escape where
  | atom (a : Atom)
  | textStart
  | textEnd
  | word (side : WordSide)
  deriving DecidableEq, Repr

/-- The operators between the sets of a class. -/
inductive SetOperator where
  | intersection | difference | symmetricDifference
  deriving DecidableEq, Repr

/-- What stands between the brackets of a class. -/
inductive ClassExpr where
  | empty
  | atom (a : Atom) (span : Span)
  | range (first : Literal) (firstSpan : Span) (last : Literal) (lastSpan : Span)
  | ascii (c : AsciiClass) (negated : Bool) (span : Span)
  | bracketed (negated : Bool) (inner : ClassExpr) (span : Span)
  | union (a b : ClassExpr)
  | combine (op : SetOperator) (a b : ClassExpr)
  deriving DecidableEq, Repr

/-- A regular expression as written. -/
inductive Expr where
  | empty
  | atom (a : Atom) (span : Span)
  | dot (span : Span)
  | lineStart
  | lineEnd
  | textStart
  | textEnd
  | word (side : WordSide)
  | bracketed (negated : Bool) (inner : ClassExpr) (span : Span)
  | switch (s : Switches)
  | group (s : Switches) (inner : Expr)
  | seq (first second : Expr)
  | alt (first second : Expr)
  | times (body : Expr) (min : Nat) (max : Option Nat) (greedy : Bool)
  deriving DecidableEq, Repr

end TextParser.Regex
