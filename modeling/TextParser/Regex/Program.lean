import TextParser.Regex.Pattern

/-!
Programs: patterns laid out as numbered instructions, for a matcher that follows all of its ways
at once.

A pattern is laid out in front of what is to be followed after it, so the program grows from its
end. `a+b` on top of `accept` at 0 becomes

    0  accept
    1  one b → 0
    2  fork 3 1          another a, or else the b
    3  one a → 2         (the way in)
-/

namespace TextParser.Regex

/-- An instruction; ways to go on are given by the number of the next instruction. -/
inductive Instruction where
  | accept
  | one (s : CharSet) (next : Nat)
  | look (l : Look) (next : Nat)
  /-- Two ways on, the preferred one first. -/
  | fork (first second : Nat)
  deriving DecidableEq, Repr

/-- Instructions by number. -/
abbrev Program := Array Instruction

namespace Program

/-- A way into a program. -/
structure Entry where
  start : Nat
  code : Program
  deriving DecidableEq, Repr

/-- A layout step: given where to go on and the program so far, the way in and the longer program. -/
abbrev Layout := Nat → Program → Entry

/-- Adds one instruction and enters there. -/
def emit (i : Instruction) (code : Program) : Entry := ⟨code.size, code.push i⟩

/-- A fork that prefers `more` if `greedy`, and `leave` otherwise. -/
def choose (greedy : Bool) (more leave : Nat) : Instruction :=
  if greedy then .fork more leave else .fork leave more

/-- `n` rounds of `body`. -/
def exactly (body : Layout) : Nat → Layout
  | 0, next, code => ⟨next, code⟩
  | n + 1, next, code =>
    let rest := exactly body n next code
    body rest.start rest.code

/-- Up to `n` rounds of `body`, with a way out before each. -/
def upTo (body : Layout) (greedy : Bool) : Nat → Layout
  | 0, next, code => ⟨next, code⟩
  | n + 1, next, code =>
    let rest := upTo body greedy n next code
    let round := body rest.start rest.code
    emit (choose greedy round.start next) round.code

/-- A fork after each round of `body`, back to its start or on; `start` is the way into the first
round, `fork` the way in that may skip it. -/
def again (body : Layout) (greedy : Bool) (next : Nat) (code : Program) : Entry × Nat :=
  let fork := code.size
  let round := body fork (code.push .accept)
  (⟨round.start, round.code.setIfInBounds fork (choose greedy round.start next)⟩, fork)

/-- One round of `body` or more. -/
def oneOrMore (body : Layout) (greedy : Bool) : Layout := fun next code =>
  (again body greedy next code).1

/-- Any number of rounds of `body`. A body that may match the empty text gets a fork of its own
in front of the first round. -/
def zeroOrMore (body : Layout) (mayBeEmpty greedy : Bool) : Layout := fun next code =>
  let (entry, fork) := again body greedy next code
  if mayBeEmpty then emit (choose greedy entry.start next) entry.code
  else ⟨fork, entry.code⟩

/-- Lays out a pattern in front of instruction `next`. -/
def layout : Pattern → Layout
  | .empty, next, code => ⟨next, code⟩
  | .set s, next, code => emit (.one s next) code
  | .look l, next, code => emit (.look l next) code
  | .seq p q, next, code =>
    let second := layout q next code
    layout p second.start second.code
  | .alt p q, next, code =>
    let second := layout q next code
    let first := layout p next second.code
    emit (.fork first.start second.start) first.code
  | .times p min max greedy, next, code =>
    match max, min with
    | none, 0 => zeroOrMore (layout p) p.mayBeEmpty greedy next code
    | none, n + 1 =>
      let last := oneOrMore (layout p) greedy next code
      exactly (layout p) n last.start last.code
    | some m, n =>
      let extra := upTo (layout p) greedy (m - n) next code
      exactly (layout p) n extra.start extra.code

/-- The program of a pattern: accept at 0, the pattern in front of it. -/
def ofPattern (p : Pattern) : Entry := layout p 0 #[.accept]

end Program

end TextParser.Regex
