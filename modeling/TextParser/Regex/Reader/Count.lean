import TextParser.Regex.Reader.Blank

/-!
Counted repetitions.

    {3}      three rounds
    {2,}     two or more
    {2,5}    from two to five
    {2,5}?   the same, but as few as possible
-/

namespace TextParser.Regex.Reader

open Unicode

/-- The rounds that a counted repetition asks for. -/
structure Rounds where
  min : Nat
  max : Option Nat
  greedy : Bool
  deriving DecidableEq, Repr

/-- The greatest count. -/
def greatestCount : Nat := 4294967295

/-- Reads a decimal number with blanks around it. A refusal of the number is handed back beside
what is left, for a fault of the braces around it is told first. -/
def readDecimal (verbose : Bool) (rest : Text) : Except Refusal Nat × Text :=
  let start := rest.dropWhile isWhiteSpace
  let (digits, stop) := gather verbose Char.isDigit start
  let span := Span.between start stop
  let number : Except Refusal Nat :=
    if digits = [] then refuse .countMissing span
    else if decimalNumber digits ≤ greatestCount then .ok (decimalNumber digits)
    else refuse .countInvalid span
  (number, stop.dropWhile isWhiteSpace)

/-- Reads the closing brace and a question mark after it. -/
def closeCount (verbose : Bool) (start : Text) (min : Nat) (max : Option Nat) (rest : Text) :
    Except Refusal (Rounds × Text) :=
  match rest with
  | '}' :: more =>
    let after := skipBlank verbose more
    let lazy := after.head? == some '?'
    let left := if lazy then after.drop 1 else after
    if max.all (min ≤ ·) then .ok (⟨min, max, !lazy⟩, left)
    else refuse .countReversed (.between start left)
  | _ => refuse .countUnclosed (.between start rest)

/-- Reads a counted repetition; `start` begins with its brace. -/
def readCount (verbose : Bool) (start : Text) : Except Refusal (Rounds × Text) :=
  match skipBlank verbose (start.drop 1) with
  | [] => refuse .countUnclosed (.between start [])
  | inside =>
    let (first, rest) := readDecimal verbose inside
    match rest with
    | [] => refuse .countUnclosed (.between start [])
    | ',' :: more =>
      match skipBlank verbose more with
      | [] => refuse .countUnclosed (.between start [])
      | '}' :: left => do
        let min ← first
        closeCount verbose start min none ('}' :: left)
      | next => do
        let min ← first
        let (second, left) := readDecimal verbose next
        let max ← second
        closeCount verbose start min (some max) left
    | _ => do
      let min ← first
      closeCount verbose start min (some min) rest

end TextParser.Regex.Reader
