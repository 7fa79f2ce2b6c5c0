import TextParser.Regex.Pattern

/-!
The size of a pattern's automaton over bytes, in bytes of memory, reckoned without building it.

Counted repetitions are what makes automata big, for each round is laid out anew: a thousand rounds
of a thousand rounds are a million states. Next to them it matters little how a set is laid out, so
sets are reckoned from the number of their runs.
-/

namespace TextParser.Regex

namespace Size

/-- The memory that one state takes. -/
def state : Nat := 32

/-- The memory that one range of bytes in a state takes. -/
def range : Nat := 8

/-- The memory that one way on from a fork takes. -/
def branch : Nat := 4

/-- The memory of the states that tell the lead bytes of characters apart. -/
def leads : Nat := 6 * state

/-- How many runs some categories have together. -/
def runsOf (cs : List Unicode.Category) : Nat :=
  cs.foldl (fun n c => n + c.runs.length) 0

/-- About how many runs of characters a property has. -/
def runs : Unicode.Property → Nat
  | .any => 1
  | .ascii => 1
  | .assigned => runsOf Unicode.Category.tabled
  | .alphabetic => runsOf Unicode.CategoryGroup.letter.members
  | .lowercase => Unicode.Category.lowercaseLetter.runs.length
  | .uppercase => Unicode.Category.uppercaseLetter.runs.length
  | .whiteSpace => Unicode.whiteSpace.length
  | .wordCharacter =>
    -- marks are left out: most of them close gaps between letters
    runsOf (Unicode.CategoryGroup.letter.members ++ [.decimalNumber, .connectorPunctuation])
  | .category .unassigned => runsOf Unicode.Category.tabled
  | .category c => c.runs.length
  | .categories g => runsOf g.members
  | .script s => s.runs.length

/-- About how many ranges a set has. -/
def ranges : CharSet → Nat
  | .empty => 0
  | .range _ _ => 1
  | .property p => runs p
  | .complement s => ranges s + 1
  | .union a b => ranges a + ranges b
  | .inter a b => max (ranges a) (ranges b)
  | .folded s => 2 * ranges s
  | .asciiFolded s => 2 * ranges s

/-- The memory of a set of `n` ranges, all of ASCII characters or not. Beyond ASCII each range has
about one state of its own. -/
def ofRanges (n : Nat) (ascii : Bool) : Nat :=
  if ascii then state + n * range else leads + n * (state + range + branch)

/-- The memory of a set of characters. A single character has a state for each of its bytes. -/
def ofSet (s : CharSet) : Nat :=
  match s with
  | .range first last =>
    if first = last then first.utf8Size * state
    else if last.toNat ≤ 0x7F then state
    else leads + range
  | .folded (.range first last) =>
    let variants := Unicode.caseVariants first
    if first = last then ofRanges variants.length (variants.all (·.toNat ≤ 0x7F))
    else ofRanges (ranges s) false
  | _ => ofRanges (ranges s) s.isAscii

/-- The memory of a pattern. -/
def ofPattern : Pattern → Nat
  | .empty => state
  | .set s => ofSet s
  | .look _ => state
  | .seq p q => ofPattern p + ofPattern q
  | .alt p q => state + 2 * branch + ofPattern p + ofPattern q
  | .times p min max _ =>
    let fork := state + 2 * branch
    match max with
    | none => (if min = 0 then 1 else min) * ofPattern p + 2 * fork
    | some m => min * ofPattern p + (m - min) * (ofPattern p + fork)

end Size

end TextParser.Regex
