import TextParser.Proofs.Parser.Contract

/-!
Leaves of trees, and what a tree has from all of its leaves.
-/

namespace TextParser.Tree

variable {α β : Type}

/-- Whether `P` holds of every leaf. -/
def EveryLeaf (P : (β : Type) → Parser β → Prop) {α : Type} : Tree α → Prop
  | leaf p => P α p
  | seq a b => a.EveryLeaf P ∧ b.EveryLeaf P
  | or a b => a.EveryLeaf P ∧ b.EveryLeaf P
  | map _ t => t.EveryLeaf P
  | withError _ t => t.EveryLeaf P
  | report _ t => t.EveryLeaf P

/-- A tree over leaves that leave suffixes leaves suffixes. -/
theorem EveryLeaf.leavesSuffix {t : Tree α}
    (ht : t.EveryLeaf fun _ p => p.LeavesSuffix) : t.parser.LeavesSuffix := by
  induction t with
  | leaf p => exact ht
  | seq a b iha ihb => exact (iha ht.1).andThen (ihb ht.2)
  | or a b iha ihb => exact (iha ht.1).orElse (ihb ht.2)
  | map g t ih => exact (ih ht).map g
  | withError message t ih => exact (ih ht).withError message
  | report settings t ih => exact (ih ht).reporting settings

/-! ### Derived combinations -/

theorem parser_keepLeft (a : Tree α) (b : Tree β) :
    (a.keepLeft b).parser = a.parser.keepLeft b.parser := rfl

theorem parser_keepRight (a : Tree α) (b : Tree β) :
    (a.keepRight b).parser = a.parser.keepRight b.parser := rfl

theorem parser_orError (a b : Tree α) (message : String) :
    (a.orError b message).parser = a.parser.orElseWithError b.parser message := rfl

/-- The choice of some trees is built exactly like the choice of their parsers. -/
theorem parser_choice (ts : List (Tree α)) :
    (choice ts).map parser = Parser.choice (ts.map parser) :=
  Build.map_choice (fun _ _ => rfl) ts

end TextParser.Tree
