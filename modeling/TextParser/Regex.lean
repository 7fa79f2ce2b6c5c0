import TextParser.Regex.Matcher
import TextParser.Regex.Meaning
import TextParser.Regex.Reader

/-!
Regular expressions, ready to be searched for.

    text ──read──▶ expression ──meaning──▶ pattern ──layout──▶ program

A search finds the leftmost place with a match, and there the match that the expression prefers.
The sets of properties and the limits to what is compiled are resources, given from outside.
-/

namespace TextParser

/-- A compiled regular expression: its program, the way in, and whether it can only match at the
start of a text. -/
structure Regex where
  code : Regex.Program
  start : Nat
  anchored : Bool
  deriving DecidableEq, Repr

namespace Regex

/-- Why an expression is not compiled. -/
inductive Error where
  | refused (expr : Text) (refusal : Refusal)
  | exceeds (expr : Text) (limit : Limit)
  deriving DecidableEq, Repr

/-- What is said of an expression that is not compiled. -/
def Error.message : Error → String
  | refused expr refusal => refusal.message expr
  | exceeds _ .size => s!"Compiled regex exceeds size limit of {sizeLimit} bytes."
  | exceeds expr (.nesting span) => Refusal.message ⟨.nestedTooDeep, span, none⟩ expr

/-- The pattern that a text writes, with the sets of properties from `k`. -/
def readPattern (k : Properties) (expr : Text) : Except Refusal Pattern := do
  let e ← Expr.read expr
  e.pattern k

/-- The compiled form of a pattern. -/
def ofPattern (p : Pattern) : Regex :=
  let entry := Program.ofPattern p
  ⟨entry.code, entry.start, p.isAnchored⟩

/-- Compiles the expression that a text writes, if it keeps within the limits. -/
def compile (r : Resources) (expr : Text) : Except Error Regex :=
  match r.exceeded? expr with
  | some limit => .error (.exceeds expr limit)
  | none =>
    match readPattern r.properties expr with
    | .error refusal => .error (.refused expr refusal)
    | .ok p => .ok (ofPattern p)

/-! ### Searching -/

/-- A match, cut out of its text. -/
structure Found where
  skipped : Text
  text : Text
  rest : Text
  deriving DecidableEq, Repr

/-- The preferred match right in front of `input`, with the character `before` behind it: the text
matched and the rest. -/
def matchHere (r : Regex) (before : Option Char) (input : Text) : Option (Text × Text) :=
  r.code.run [r.start] before input

/-- Searches `input` from its front on. -/
def search (r : Regex) (before : Option Char) (input : Text) : Option Found :=
  match r.matchHere before input, input with
  | some (text, rest), _ => some ⟨[], text, rest⟩
  | none, [] => none
  | none, c :: input =>
    (r.search (some c) input).map fun f => { f with skipped := c :: f.skipped }

/-- The leftmost match in a text. -/
def find? (r : Regex) (input : Text) : Option Found :=
  if r.anchored then (r.matchHere none input).map fun (text, rest) => ⟨[], text, rest⟩
  else r.search none input

end Regex

end TextParser
