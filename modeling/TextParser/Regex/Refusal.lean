import TextParser.Text

/-!
Why a regular expression is refused, and where.

A refusal names a fault and the stretch of the expression that is at fault. It is shown with that
stretch marked:

    regex parse error:
        ^(?:a[z-a])
              ^^^
    error: invalid character class range, the start must be <= the end
-/

namespace TextParser.Regex

/-- A stretch of an expression, told by the number of characters left where it starts and left
where it ends. -/
structure Span where
  startLeft : Nat
  stopLeft : Nat
  deriving DecidableEq, Repr

namespace Span

/-- The stretch between two readings: `start` is what was left before it, `stop` after it. -/
def between (start stop : Text) : Span := ⟨start.length, stop.length⟩

/-- The empty stretch in front of `rest`. -/
def point (rest : Text) : Span := ⟨rest.length, rest.length⟩

/-- The first character of `rest`. -/
def one (rest : Text) : Span := ⟨rest.length, rest.length - 1⟩

end Span

/-- What can be wrong with a regular expression. -/
inductive Fault where
  | classUnclosed
  | classItemInvalid
  | classRangeReversed
  | classRangeNotLiteral
  | countInvalid
  | countMissing
  | countUnclosed
  | countReversed
  | operandMissing
  | hexEmpty
  | hexInvalid
  | hexDigitInvalid
  | escapeUnfinished
  | escapeUnknown
  | backreference
  | lookAround
  | flagUnknown
  | flagRepeated
  | flagUnfinished
  | negationDangling
  | negationRepeated
  | groupUnclosed
  | groupUnopened
  | nestedTooDeep
  | nameEmpty
  | nameInvalid
  | nameRepeated
  | nameUnfinished
  | boundaryUnclosed
  | boundaryUnknown
  | boundaryUnfinished
  | propertyInvalid
  | propertyUnknown
  | propertyValueUnknown
  | unicodeNotAllowed
  | invalidUtf8
  deriving DecidableEq, Repr

namespace Fault

/-- What is said of a fault. -/
def message : Fault → String
  | classUnclosed => "unclosed character class"
  | classItemInvalid => "invalid escape sequence found in character class"
  | classRangeReversed => "invalid character class range, the start must be <= the end"
  | classRangeNotLiteral => "invalid range boundary, must be a literal"
  | countInvalid => "decimal literal invalid"
  | countMissing => "repetition quantifier expects a valid decimal"
  | countUnclosed => "unclosed counted repetition"
  | countReversed => "invalid repetition count range, the start must be <= the end"
  | operandMissing => "repetition operator missing expression"
  | hexEmpty => "hexadecimal literal empty"
  | hexInvalid => "hexadecimal literal is not a Unicode scalar value"
  | hexDigitInvalid => "invalid hexadecimal digit"
  | escapeUnfinished => "incomplete escape sequence, reached end of pattern prematurely"
  | escapeUnknown => "unrecognized escape sequence"
  | backreference => "backreferences are not supported"
  | lookAround => "look-around, including look-ahead and look-behind, is not supported"
  | flagUnknown => "unrecognized flag"
  | flagRepeated => "duplicate flag"
  | flagUnfinished => "expected flag but got end of regex"
  | negationDangling => "dangling flag negation operator"
  | negationRepeated => "flag negation operator repeated"
  | groupUnclosed => "unclosed group"
  | groupUnopened => "unopened group"
  | nestedTooDeep => "exceed the maximum number of nested parentheses/brackets (250)"
  | nameEmpty => "empty capture group name"
  | nameInvalid => "invalid capture group character"
  | nameRepeated => "duplicate capture group name"
  | nameUnfinished => "unclosed capture group name"
  | boundaryUnclosed =>
    "special word boundary assertion is either unclosed or contains an invalid character"
  | boundaryUnknown =>
    "unrecognized special word boundary assertion, valid choices are: start, end, start-half or end-half"
  | boundaryUnfinished =>
    "found either the beginning of a special word boundary or a bounded repetition on a \\b with an opening brace, but no closing brace"
  | propertyInvalid => "invalid Unicode character class"
  | propertyUnknown => "Unicode property not found"
  | propertyValueUnknown => "Unicode property value not found"
  | unicodeNotAllowed => "Unicode not allowed here"
  | invalidUtf8 => "pattern can match invalid UTF-8"

end Fault

/-- A fault with the stretch at fault and, when something is there twice, the stretch where it
was first. -/
structure Refusal where
  fault : Fault
  span : Span
  earlier : Option Span := none
  deriving DecidableEq, Repr

/-- Refuses an expression for `fault` at `span`. -/
def refuse {α : Type} (fault : Fault) (span : Span) : Except Refusal α :=
  .error ⟨fault, span, none⟩

namespace Refusal

/-! ### Showing a refusal -/

/-- A place in an expression: its line and its column in that line, both from zero. -/
structure Place where
  line : Nat
  column : Nat
  deriving DecidableEq, Repr

/-- The place with `left` characters of `expr` left. -/
def place (expr : Text) (left : Nat) : Place :=
  let before := Text.lines (expr.take (expr.length - left))
  ⟨before.length - 1, (before.getLastD []).length⟩

/-- The places that a refusal of `expr` marks, in the order of the text. -/
def marks (r : Refusal) (expr : Text) : List (Place × Place) :=
  (r.earlier.toList ++ [r.span]).map fun s => (place expr s.startLeft, place expr s.stopLeft)

/-- Carets under the columns of the stretches, at least one caret for each; `column` is where the
line of carets has come to. -/
def carets : Nat → List (Nat × Nat) → String
  | _, [] => ""
  | column, (start, stop) :: more =>
    let width := max 1 (stop - start)
    let here := max column start
    "".pushn ' ' (start - column) ++ "".pushn '^' width ++ carets (here + width) more

/-- The lines of an expression as they are shown: without line ends, and no empty last line. -/
def shownLines (expr : Text) : List Text :=
  let all := Text.lines expr
  let ended := all.dropLast.map fun line =>
    if line.getLast? = some '\r' then line.dropLast else line
  ended ++ (all.getLast?.filter (· ≠ [])).toList

/-- A number in a field of `width`. -/
def padded (width n : Nat) : String :=
  let digits := toString n
  "".pushn ' ' (width - digits.length) ++ digits

/-- The expression with carets under the marked stretches that lie within one line. Lines are
numbered if there are several. -/
def notated (r : Refusal) (expr : Text) : String :=
  let shown := shownLines expr
  let count := (Text.lines expr).length
  let width := if count ≤ 1 then 0 else (toString count).length
  let margin := if width = 0 then 4 else width + 2
  let marked := (r.marks expr).filter fun (a, b) => a.line = b.line
  String.join <| shown.zipIdx.map fun (line, i) =>
    let head := if width = 0 then "    " else padded width (i + 1) ++ ": "
    let here := (marked.filter (·.1.line = i)).map fun (a, b) => (a.column, b.column)
    let under := if here.isEmpty then "" else "".pushn ' ' margin ++ carets 0 here ++ "\n"
    head ++ String.ofList line ++ "\n" ++ under

/-- Where a stretch over several lines starts and ends, counted from one. -/
def longMark (a b : Place) : String :=
  s!"on line {a.line + 1} (column {a.column + 1}) through line {b.line + 1} (column {b.column})\n"

/-- A refusal of `expr` in full. -/
def message (r : Refusal) (expr : Text) : String :=
  let rule := "".pushn '~' 79 ++ "\n"
  let long := (r.marks expr).filter fun (a, b) => a.line ≠ b.line
  let body :=
    if expr.contains '\n' then
      rule ++ r.notated expr ++ rule ++ String.join (long.map fun (a, b) => longMark a b)
    else r.notated expr
  "regex parse error:\n" ++ body ++ "error: " ++ r.fault.message

end Refusal

end TextParser.Regex
