import TextParser.Recognizer
import TextParser.Report

/-!
Trees of combinations: a parser as the skeleton of how it is put together, over leaves that are
parsers of any kind.

        or
       /  \
     seq   leaf c          (a.andThen b).orElse c
    /   \
 leaf a  leaf b
-/

universe u

namespace TextParser

/-- How a parser of `α` is put together. -/
inductive Tree : Type → Type 1 where
  | leaf {α : Type} (p : Parser α) : Tree α
  | seq {α β : Type} (first : Tree α) (second : Tree β) : Tree (α × β)
  | or {α : Type} (first second : Tree α) : Tree α
  | map {α β : Type} (f : α → β) (t : Tree α) : Tree β
  | withError {α : Type} (message : String) (t : Tree α) : Tree α
  | report {α : Type} (settings : Report.Settings) (t : Tree α) : Tree α

namespace Tree

/-- The parser that a tree puts together. -/
def parser {α : Type} : Tree α → Parser α
  | leaf p => p
  | seq a b => a.parser.andThen b.parser
  | or a b => a.parser.orElse b.parser
  | map f t => t.parser.map f
  | withError message t => t.parser.withError message
  | report settings t => t.parser.reporting settings

variable {α β : Type}

/-- One after the other, for the value of the first. -/
def keepLeft (a : Tree α) (b : Tree β) : Tree α := map (·.1) (seq a b)

/-- One after the other, for the value of the second. -/
def keepRight (a : Tree α) (b : Tree β) : Tree β := map (·.2) (seq a b)

/-- One or else the other, with a message for when both fail. -/
def orError (a b : Tree α) (message : String) : Tree α := withError message (or a b)

/-- The first of some that succeeds. -/
def choice (ts : List (Tree α)) : Build (Tree α) := Build.choice or ts

end Tree

end TextParser
