import TextParser.Failure

/-!
What comes of running a parser on a text: a value and the rest of the text, or a failure.
-/

universe u v

namespace TextParser

/-- A success with its value and the text that is left, or a failure. -/
inductive Parsed (α : Type u) where
  | success (value : α) (rest : Text)
  | failure (f : Failure)
  deriving DecidableEq, Repr

namespace Parsed

variable {α : Type u} {β : Type v}

/-- Whether the text matched. -/
def isSuccess : Parsed α → Bool
  | success _ _ => true
  | failure _ => false

/-- Whether the text did not match. -/
def isFailure : Parsed α → Bool
  | success _ _ => false
  | failure _ => true

/-- The text that a success leaves. -/
def rest? : Parsed α → Option Text
  | success _ rest => some rest
  | failure _ => none

/-- The failure, if it is one. -/
def failure? : Parsed α → Option Failure
  | success _ _ => none
  | failure f => some f

/-- The number of bytes that a success on `input` took. -/
def consumed? (p : Parsed α) (input : Text) : Option Nat :=
  p.rest?.map fun rest => input.byteSize - rest.byteSize

/-- Applies `f` to the value of a success. -/
def map (f : α → β) : Parsed α → Parsed β
  | success value rest => success (f value) rest
  | failure e => failure e

/-- Applies `f` to a failure. -/
def mapFailure (f : Failure → Failure) : Parsed α → Parsed α
  | success value rest => success value rest
  | failure e => failure (f e)

/-- Moves a failure on by `consumed` bytes. -/
def shifted (p : Parsed α) (consumed : Nat) : Parsed α :=
  p.mapFailure (·.shifted consumed)

/-- The alternative if it is a success and this is none; of two failures, this one. -/
def orParse : Parsed α → Parsed α → Parsed α
  | success value rest, _ => success value rest
  | failure _, success value rest => success value rest
  | failure e, failure _ => failure e

/-- The value and the rest, or else the failure. -/
def toExcept : Parsed α → Except Failure (α × Text)
  | success value rest => .ok (value, rest)
  | failure e => .error e

/-- A success from a value and a rest, a failure from an error. -/
def ofExcept : Except Failure (α × Text) → Parsed α
  | .ok (value, rest) => success value rest
  | .error e => failure e

@[simp] theorem ofExcept_toExcept (p : Parsed α) : ofExcept p.toExcept = p := by
  cases p <;> rfl

end Parsed

end TextParser
