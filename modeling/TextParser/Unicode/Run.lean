/-!
Sets of code points as they stand in the tables of the Unicode standard: lists of evenly spaced
runs.

    ⟨0x41, 0x5A, 1⟩      A, B, C, …, Z
    ⟨0x100, 0x12E, 2⟩    Ā, Ă, Ą, …   (the upper case letters of pairs)
-/

namespace TextParser.Unicode

/-- The code points `first`, `first + step`, … up to `last`. -/
structure Run where
  first : Nat
  last : Nat
  step : Nat
  deriving DecidableEq, Repr

namespace Run

/-- Whether the code point `n` stands in the run. -/
def contains (r : Run) (n : Nat) : Bool :=
  r.first ≤ n && n ≤ r.last && (n - r.first) % r.step == 0

/-- Whether a table of runs holds the character `c`. -/
def holds (table : List Run) (c : Char) : Bool :=
  table.any (·.contains c.toNat)

end Run

end TextParser.Unicode
