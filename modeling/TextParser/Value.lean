import TextParser.Text

/-!
Values of parsers whose types are not known beforehand, and what can be made of them.

The text of a value is what its strings and numbers spell, one after the other.
-/

namespace TextParser

/-- A value of a parser. -/
inductive Value where
  | unit
  | text (s : String)
  | number (n : Nat)
  | pair (a b : Value)
  | list (vs : List Value)
  deriving Repr

namespace Value

/-- The text of a value. -/
def flat : Value → String
  | unit => ""
  | text s => s
  | number n => toString n
  | pair a b => a.flat ++ b.flat
  | list vs => flatAll vs
where
  /-- The texts of values, one after the other. -/
  flatAll : List Value → String
    | [] => ""
    | v :: vs => v.flat ++ flatAll vs

/-- Whether two values are the same. -/
def same : Value → Value → Bool
  | unit, unit => true
  | text s, text t => s == t
  | number m, number n => m == n
  | pair a b, pair c d => a.same c && b.same d
  | list vs, list ws => sameAll vs ws
  | _, _ => false
where
  /-- Whether two lists hold the same values. -/
  sameAll : List Value → List Value → Bool
    | [], [] => true
    | v :: vs, w :: ws => v.same w && sameAll vs ws
    | _, _ => false

instance : BEq Value := ⟨same⟩

end Value

/-! ### Transforms -/

/-- A function on values, by name. -/
inductive Transform where
  /-- The text of the value. -/
  | concat
  /-- The text with ASCII letters in upper case. -/
  | upper
  /-- The number of bytes of the text. -/
  | bytes
  /-- The number of characters of the text. -/
  | chars
  /-- The number that the text writes, or zero. -/
  | number
  /-- Nothing. -/
  | unit
  /-- The list of just the value. -/
  | wrap
  /-- A pair turned round. -/
  | swap
  /-- The first part of a pair. -/
  | first
  /-- The second part of a pair. -/
  | second
  /-- The first part of a pair in front of the list that is its second part. -/
  | cons
  deriving DecidableEq, Repr

namespace Transform

/-- The greatest number of 64 bits. -/
def greatestNumber : Nat := 18446744073709551615

/-- The number of at most 64 bits that a text writes in decimal digits, with or without a plus
sign. -/
def decimal? (t : Text) : Option Nat :=
  let digits := if t.head? = some '+' then t.drop 1 else t
  if digits = [] ∨ !digits.all Char.isDigit then none
  else
    let n := digits.foldl (fun n c => 10 * n + (c.toNat - '0'.toNat)) 0
    if n ≤ greatestNumber then some n else none

/-- Applies a transform; one that asks for a pair leaves all else as it is. -/
def apply : Transform → Value → Value
  | concat, v => .text v.flat
  | upper, v => .text (v.flat.map Char.toUpper)
  | bytes, v => .number v.flat.utf8ByteSize
  | chars, v => .number v.flat.length
  | number, v => .number ((decimal? v.flat.toList).getD 0)
  | unit, _ => .unit
  | wrap, v => .list [v]
  | swap, .pair a b => .pair b a
  | first, .pair a _ => a
  | second, .pair _ b => b
  | cons, .pair a (.list vs) => .list (a :: vs)
  | cons, .pair a b => .list [a, b]
  | swap, v => v
  | first, v => v
  | second, v => v
  | cons, v => v

end Transform

end TextParser
