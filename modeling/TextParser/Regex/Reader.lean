import TextParser.Regex.Reader.Class
import TextParser.Regex.Reader.Count
import TextParser.Regex.Reader.Group

/-!
Reading an expression from its text, part by part.

The reader keeps the groups that are open, the alternatives finished in each, and the parts of the
alternative it is in:

    ( a b | c d ( e f        open   ( … | c d        outer
                             now    e f
-/

namespace TextParser.Regex

/-- Parts in a row. -/
def Expr.inSequence : List Expr → Expr
  | [] => .empty
  | [e] => e
  | e :: more => .seq e (inSequence more)

/-- Alternatives, the last one apart. -/
def Expr.amongAlternatives : List Expr → Expr → Expr
  | [], last => last
  | e :: more, last => .alt e (amongAlternatives more last)

namespace Reader

/-- What is read of a group: its finished alternatives and the parts of the current one, the last
of each first. -/
structure Level where
  alternatives : List Expr := []
  parts : List Expr := []
  deriving DecidableEq, Repr

namespace Level

/-- Adds a part. -/
def add (l : Level) (e : Expr) : Level := { l with parts := e :: l.parts }

/-- Finishes an alternative. -/
def alternate (l : Level) : Level :=
  ⟨Expr.inSequence l.parts.reverse :: l.alternatives, []⟩

/-- The expression that was read. -/
def expr (l : Level) : Expr :=
  Expr.amongAlternatives l.alternatives.reverse (Expr.inSequence l.parts.reverse)

end Level

/-- A group that is open: its parenthesis and switches, and what was read around it. -/
structure OpenGroup where
  span : Span
  switches : Switches
  around : Level
  verbose : Bool
  deriving DecidableEq, Repr

/-- What is read of an expression. -/
structure State where
  level : Level := {}
  groups : List OpenGroup := []
  verbose : Bool := false
  names : List (Text × Span) := []
  deriving DecidableEq, Repr

namespace State

/-- Adds a part. -/
def add (s : State) (e : Expr) : State := { s with level := s.level.add e }

/-- The expression, if no group is open. -/
def finish (s : State) : Except Refusal Expr :=
  match s.groups with
  | [] => .ok s.level.expr
  | g :: _ => refuse .groupUnclosed g.span

/-- Opens a group. -/
def openGroup (s : State) (span : Span) (switches : Switches) : State :=
  { s with
    level := {}
    groups := ⟨span, switches, s.level, s.verbose⟩ :: s.groups
    verbose := switches.verbose s.verbose }

/-- Closes the innermost group, of which there has to be one. -/
def closeGroup (s : State) (span : Span) : Except Refusal State :=
  match s.groups with
  | [] => refuse .groupUnopened span
  | g :: groups =>
    .ok { s with
      level := g.around.add (.group g.switches s.level.expr)
      groups
      verbose := g.verbose }

/-- Does what an opening asks for. -/
def enter (s : State) (span : Span) : Opening → Except Refusal State
  | .switch switches =>
    .ok { s.add (.switch switches) with verbose := switches.verbose s.verbose }
  | .group switches => .ok (s.openGroup span switches)
  | .named name nameSpan =>
    match s.names.lookup name with
    | some earlier => .error ⟨.nameRepeated, nameSpan, some earlier⟩
    | none => .ok { s.openGroup span [] with names := (name, nameSpan) :: s.names }

/-- Takes off the last part, for a repetition of it. There has to be one, and switches are none. -/
def operand (s : State) (span : Span) : Except Refusal (Expr × State) :=
  match s.level.parts with
  | [] => refuse .operandMissing span
  | .switch _ :: _ => refuse .operandMissing span
  | e :: parts => .ok (e, { s with level := { s.level with parts } })

/-- Repeats the last part from `min` to `max` times; a question mark at the front of `rest` makes
it lazy. -/
def repeatLast (s : State) (min : Nat) (max : Option Nat) (span : Span) (rest : Text) :
    Except Refusal (State × Text) := do
  let (e, s) ← s.operand span
  match rest with
  | '?' :: left => return (s.add (.times e min max false), left)
  | _ => return (s.add (.times e min max true), rest)

end State

/-- The part that an escape at `span` is. -/
def escapePart (span : Span) : Escape → Expr
  | .atom a => .atom a span
  | .textStart => .textStart
  | .textEnd => .textEnd
  | .word side => .word side

/-- Reads one part at the front of `c :: more`. -/
def readPart (s : State) (c : Char) (more : Text) : Except Refusal (State × Text) :=
  let start := c :: more
  match c with
  | '(' => do
    let (opening, rest) ← readOpening s.verbose start
    let s ← s.enter (.one start) opening
    return (s, rest)
  | ')' => do
    let s ← s.closeGroup (.one start)
    return (s, more)
  | '|' => .ok ({ s with level := s.level.alternate }, more)
  | '[' => do
    let (e, rest) ← readClass s.verbose start
    return (s.add e, rest)
  | '?' => s.repeatLast 0 (some 1) (.point start) more
  | '*' => s.repeatLast 0 none (.point start) more
  | '+' => s.repeatLast 1 none (.point start) more
  | '{' => do
    let (e, s) ← s.operand (.point start)
    let (rounds, rest) ← readCount s.verbose start
    return (s.add (.times e rounds.min rounds.max rounds.greedy), rest)
  | '\\' => do
    let (e, rest) ← readEscape s.verbose start
    return (s.add (escapePart (.between start rest) e), rest)
  | '.' => .ok (s.add (.dot (.one start)), more)
  | '^' => .ok (s.add .lineStart, more)
  | '$' => .ok (s.add .lineEnd, more)
  | _ => .ok (s.add (.atom (.literal ⟨c, false⟩) (.one start)), more)

/-- Reads parts to the end. Every part takes a character, so as many parts as there are characters
are enough; `fuel` bounds them. -/
def readParts : (fuel : Nat) → State → Text → Except Refusal Expr
  | 0, s, rest =>
    match skipBlank s.verbose rest with
    | [] => s.finish
    | left => refuse .groupUnopened (.point left)
  | fuel + 1, s, rest =>
    match skipBlank s.verbose rest with
    | [] => s.finish
    | c :: more => do
      let (s, rest) ← readPart s c more
      readParts fuel s rest

end Reader

/-- The expression that a text writes. -/
def Expr.read (text : Text) : Except Refusal Expr :=
  Reader.readParts text.length {} text

end TextParser.Regex
