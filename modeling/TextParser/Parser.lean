import TextParser.Logged
import TextParser.Parsed

/-!
Parsers and the ways to combine them.

A parser takes a value off the front of a text, or fails. Parsers go

    p.andThen q      one after the other, on what the first one leaves
    p.orElse q       one or else the other, on the same text
    p.map f          with their value changed
    p.withError m    with the message of their failure replaced

and a failure always tells its place in the text that the outermost parser was given. When two
alternatives fail, the failure is that of the first one.
-/

universe u

namespace TextParser

/-- A way to take a value off the front of a text, with a record of the run. -/
structure Parser (α : Type u) where
  parse : Text → Logged (Parsed α)

namespace Parser

variable {α β : Type u}

/-! ### Primitive parsers -/

/-- Takes nothing, and has the value `a`. -/
def succeed (a : α) : Parser α where
  parse input := pure (.success a input)

/-- Fails on every text. -/
def fail (offset : Nat) (message : String) : Parser α where
  parse _ := pure (.failure ⟨offset, message⟩)

/-- Succeeds on the empty text only. -/
def endOfInput : Parser PUnit where
  parse
    | [] => pure (.success ⟨⟩ [])
    | _ :: _ => pure (.failure ⟨0, "Error: Expected end of input"⟩)

/-- What is said when a text is too short. -/
def unexpectedEnd : String := "unexpected end of input"

/-- Takes one character. -/
def anyChar : Parser String where
  parse
    | [] => pure (.failure ⟨0, unexpectedEnd⟩)
    | c :: rest => pure (.success (String.singleton c) rest)

/-- Takes `n` characters; if there are fewer, fails at the end of the text. -/
def take (n : Nat) : Parser String where
  parse input :=
    if n ≤ input.length then
      pure (.success (String.ofList (input.take n)) (input.drop n))
    else pure (.failure ⟨input.byteSize, unexpectedEnd⟩)

/-- Takes the text `text`. -/
def literal (text : String) : Parser String where
  parse input :=
    match Text.dropStart? text.toList input with
    | some rest => pure (.success text rest)
    | none => pure (.failure ⟨0, "expected " ++ text⟩)

/-! ### Combinations -/

/-- Applies `f` to the value. -/
def map (f : α → β) (p : Parser α) : Parser β where
  parse input := do return (← p.parse input).map f

/-- Runs `p` and then `q` on what `p` leaves. A failure of `q` is moved on by what `p` took. -/
def andThen (p : Parser α) (q : Parser β) : Parser (α × β) where
  parse input := do
    match ← p.parse input with
    | .failure f => return .failure f
    | .success a rest => do
      let second ← q.parse rest
      return (second.map fun b => (a, b)).shifted (input.byteSize - rest.byteSize)

/-- Runs `p` or, if that fails, `q` on the same text. -/
def orElse (p q : Parser α) : Parser α where
  parse input := do
    match ← p.parse input with
    | .success a rest => return .success a rest
    | .failure f => do
      Logged.record .fellBack
      let second ← q.parse input
      return (Parsed.failure f).orParse second

/-- Replaces the message of a failure. -/
def withError (message : String) (p : Parser α) : Parser α where
  parse input := do return (← p.parse input).mapFailure (·.withMessage message)

/-- Runs `p` or else `q`, and fails with `message` where `p` fails. -/
def orElseWithError (p q : Parser α) (message : String) : Parser α :=
  (p.orElse q).withError message

/-- Runs `p` and then `q` for the value of `p`. -/
def keepLeft (p : Parser α) (q : Parser β) : Parser α :=
  (p.andThen q).map (·.1)

/-- Runs `p` and then `q` for the value of `q`. -/
def keepRight (p : Parser α) (q : Parser β) : Parser β :=
  (p.andThen q).map (·.2)

/-! ### Operators -/

instance : HAdd (Parser α) (Parser β) (Parser (α × β)) := ⟨andThen⟩

instance : HSub (Parser α) (Parser β) (Parser α) := ⟨keepLeft⟩

instance : HMul (Parser α) (Parser β) (Parser β) := ⟨keepRight⟩

instance : HOr (Parser α) (Parser α) (Parser α) := ⟨orElse⟩

instance : HShiftRight (Parser α) (α → β) (Parser β) := ⟨fun p f => p.map f⟩

/-! ### Recursion -/

/-- What is said when a recursive parser calls itself without having taken anything. -/
def noProgress : String := "recursion without progress"

/-- Runs a recursive parser: inside `body` the parser itself can be called on every shorter
text. -/
def runFix (body : Parser α → Parser α) (input : Text) : Logged (Parsed α) :=
  let self : Parser α := ⟨fun rest =>
    if _h : rest.length < input.length then runFix body rest
    else pure (.failure ⟨0, noProgress⟩)⟩
  (body self).parse input
termination_by input.length
decreasing_by exact _h

/-- The parser `p` with `p = body p`, as far as calls of `p` have shorter texts. -/
def fix (body : Parser α → Parser α) : Parser α := ⟨runFix body⟩

end Parser

end TextParser
