import TextParser.Proofs.Parser.Laws
import TextParser.Proofs.Tree.Leaf

/-!
Messages and functions on values moved from the root of a tree towards its leaves. Main statement:
the tree with the message or the function at its root and the tree with it further in are the same
parser, records included.

    with error m            or            f            or
         |                 /  \           |           /  \
         or       =   leaf     seq        or     =   f    f ∘ g
        /  \           m      /   \      /  \        |      |
     leaf   seq            leaf   leaf  leaf  g     leaf   seq
                             m      m         |
                                             seq
-/

namespace TextParser

/-- Whether all failures of a parser have the message `message`. -/
def Parser.Says {α : Type} (message : String) (p : Parser α) : Prop :=
  ∀ ⦃input : Text⦄ ⦃f : Failure⦄, (p.parse input).value = .failure f → f.message = message

namespace Tree

variable {α β γ : Type}

/-- Whether there is no reporter in a tree. -/
def ReporterFree {α : Type} : Tree α → Prop
  | leaf _ => True
  | seq a b => a.ReporterFree ∧ b.ReporterFree
  | or a b => a.ReporterFree ∧ b.ReporterFree
  | map _ t => t.ReporterFree
  | withError _ t => t.ReporterFree
  | report _ _ => False

/-! ### Messages -/

/-- Whether no message is put in place of others in a tree. -/
def MessageFree {α : Type} : Tree α → Prop
  | leaf _ => True
  | seq a b => a.MessageFree ∧ b.MessageFree
  | or a b => a.MessageFree ∧ b.MessageFree
  | map _ t => t.MessageFree
  | withError _ _ => False
  | report _ t => t.MessageFree

/-- The tree with `message` in all failures of its leaves, and with no other messages. -/
def relabel (message : String) {α : Type} : Tree α → Tree α
  | leaf p => leaf (p.withError message)
  | seq a b => seq (a.relabel message) (b.relabel message)
  | or a b => or (a.relabel message) (b.relabel message)
  | map f t => map f (t.relabel message)
  | withError _ t => t.relabel message
  | report settings t => report settings (t.relabel message)

theorem messageFree_relabel (message : String) (t : Tree α) : (t.relabel message).MessageFree := by
  induction t with
  | leaf p => exact trivial
  | seq a b iha ihb | or a b iha ihb => exact ⟨iha, ihb⟩
  | map f t ih | withError inner t ih | report settings t ih => exact ih

theorem everyLeaf_relabel (message : String) (t : Tree α) :
    (t.relabel message).EveryLeaf fun _ p => p.Says message := by
  induction t with
  | leaf p =>
    intro input f hf
    obtain ⟨e, -, rfl⟩ := Parser.withError_eq_failure_iff.1 hf
    rfl
  | seq a b iha ihb | or a b iha ihb => exact ⟨iha, ihb⟩
  | map f t ih | withError inner t ih | report settings t ih => exact ih

/-- By induction from the root on: a message at the root goes to all leaves. -/
theorem parser_relabel {t : Tree α} (ht : t.ReporterFree) (message : String) :
    (t.relabel message).parser = t.parser.withError message := by
  induction t with
  | leaf p => rfl
  | seq a b iha ihb =>
    rw [relabel, parser, iha ht.1, ihb ht.2, parser, Parser.withError_andThen]
  | or a b iha ihb =>
    rw [relabel, parser, iha ht.1, ihb ht.2, parser, Parser.withError_orElse]
  | map f t ih => rw [relabel, parser, ih ht, parser, Parser.map_withError]
  | withError inner t ih => rw [relabel, ih ht, parser, Parser.withError_withError]
  | report settings t => exact ht.elim

/-! ### Functions -/

/-- Whether a tree comes from another one by moving the function `f` inwards: through messages, into
both alternatives, and joined with the functions that it meets. It may stop anywhere, and stops at
leaves and sequences. -/
inductive Pushed : {α β : Type} → (α → β) → Tree α → Tree β → Prop
  | stop {α β : Type} (f : α → β) (t : Tree α) : Pushed f t (.map f t)
  | or {α β : Type} {f : α → β} {a b : Tree α} {a' b' : Tree β} (ha : Pushed f a a')
    (hb : Pushed f b b') : Pushed f (.or a b) (.or a' b')
  | map {α β γ : Type} {f : β → γ} {g : α → β} {t : Tree α} {s : Tree γ}
    (h : Pushed (f ∘ g) t s) : Pushed f (.map g t) s
  | withError {α β : Type} {f : α → β} {message : String} {t : Tree α} {s : Tree β}
    (h : Pushed f t s) : Pushed f (.withError message t) (.withError message s)

/-- The tree with `f` as far inwards as it gets. -/
def pushMap {α β : Type} (f : α → β) : Tree α → Tree β
  | leaf p => map f (leaf p)
  | seq a b => map f (seq a b)
  | or a b => or (a.pushMap f) (b.pushMap f)
  | map g t => t.pushMap (f ∘ g)
  | withError message t => withError message (t.pushMap f)
  | report settings t => map f (report settings t)

/-- Whether a tree is a leaf or a sequence. -/
def IsBottom {α : Type} : Tree α → Prop
  | leaf _ => True
  | seq _ _ => True
  | _ => False

/-- Whether on each way down through messages and alternatives there is one function, directly on a
leaf or a sequence. -/
def Sunk {α : Type} : Tree α → Prop
  | or a b => a.Sunk ∧ b.Sunk
  | withError _ t => t.Sunk
  | map _ t => t.IsBottom
  | _ => False

theorem sunk_pushMap {t : Tree α} (ht : t.ReporterFree) (f : α → β) : (t.pushMap f).Sunk := by
  induction t generalizing β with
  | leaf p => exact trivial
  | seq a b => exact trivial
  | or a b iha ihb => exact ⟨iha ht.1 f, ihb ht.2 f⟩
  | map g t ih => exact ih ht (f ∘ g)
  | withError message t ih => exact ih ht f
  | report settings t => exact ht.elim

theorem pushed_pushMap (f : α → β) (t : Tree α) : Pushed f t (t.pushMap f) := by
  induction t generalizing β with
  | leaf p => exact .stop f _
  | seq a b => exact .stop f _
  | or a b iha ihb => exact .or (iha f) (ihb f)
  | map g t ih => exact .map (ih (f ∘ g))
  | withError message t ih => exact .withError (ih f)
  | report settings t => exact .stop f _

theorem Pushed.parser_eq {f : α → β} {t : Tree α} {s : Tree β} (h : Pushed f t s) :
    s.parser = t.parser.map f := by
  induction h with
  | stop f t => rfl
  | or _ _ iha ihb => rw [parser, iha, ihb, parser, Parser.map_orElse]
  | map _ ih => rw [ih, parser, Parser.map_map]
  | withError _ ih => rw [parser, ih, parser, Parser.map_withError]

/-! ### Derived combinations -/

theorem relabel_keepLeft (message : String) (a : Tree α) (b : Tree β) :
    (a.keepLeft b).relabel message = (a.relabel message).keepLeft (b.relabel message) := rfl

theorem relabel_keepRight (message : String) (a : Tree α) (b : Tree β) :
    (a.keepRight b).relabel message = (a.relabel message).keepRight (b.relabel message) := rfl

theorem relabel_orError (message inner : String) (a b : Tree α) :
    (a.orError b inner).relabel message = or (a.relabel message) (b.relabel message) := rfl

theorem pushMap_keepLeft (f : α → γ) (a : Tree α) (b : Tree β) :
    (a.keepLeft b).pushMap f = map (fun x => f x.1) (seq a b) := rfl

theorem pushMap_keepRight (f : β → γ) (a : Tree α) (b : Tree β) :
    (a.keepRight b).pushMap f = map (fun x => f x.2) (seq a b) := rfl

theorem pushMap_orError (f : α → β) (message : String) (a b : Tree α) :
    (a.orError b message).pushMap f = (a.pushMap f).orError (b.pushMap f) message := rfl

theorem relabel_choice (message : String) (ts : List (Tree α)) :
    (choice ts).map (relabel message) = choice (ts.map (relabel message)) :=
  Build.map_choice (fun _ _ => rfl) ts

theorem pushMap_choice (f : α → β) (ts : List (Tree α)) :
    (choice ts).map (pushMap f) = choice (ts.map (pushMap f)) :=
  Build.map_choice (fun _ _ => rfl) ts

/-! ### From the root inwards -/

/-- A message at the root of a tree without reporters may be put into all failures of the leaves,
and all messages in between left out. A function at the root may be moved inwards as far as one
likes, and down to leaves and sequences. The results and the records stay the same. -/
theorem parse_inwards {t : Tree α} (ht : t.ReporterFree) (message : String) (f : α → β)
    (input : Text) :
    -- the message
    (withError message t).parser.parse input = (t.relabel message).parser.parse input ∧
    (t.relabel message).MessageFree ∧
    ((t.relabel message).EveryLeaf fun _ p => p.Says message) ∧
    -- the function
    (∀ s, Pushed f t s → (map f t).parser.parse input = s.parser.parse input) ∧
    Pushed f t (t.pushMap f) ∧ (t.pushMap f).Sunk := by
  refine ⟨?_, messageFree_relabel message t, everyLeaf_relabel message t, fun s hs => ?_,
    pushed_pushMap f t, sunk_pushMap ht f⟩
  · rw [parser_relabel ht, parser]
  · rw [hs.parser_eq, parser]

/-- A letter in front of a digit, or else a sign that is written twice. -/
def letterOrSign : Tree String :=
  orError (keepLeft (leaf (.literal "a")) (leaf (.literal "1")))
    (withError "no sign" (map (fun sign => sign ++ sign) (leaf (.literal "é")))) "neither"

/-- The digit is missing, and that is said with the message at the root; of the sign written twice
the length is the value. -/
theorem parse_inwards_letterOrSign :
    letterOrSign.ReporterFree ∧
      (letterOrSign.relabel "nothing").parser.parse "ab".toList =
        ⟨.failure ⟨1, "nothing"⟩, [.fellBack]⟩ ∧
      (letterOrSign.pushMap String.length).parser.parse "éb".toList =
        ⟨.success 2 "b".toList, [.fellBack]⟩ := by
  have ht : letterOrSign.ReporterFree := ⟨⟨trivial, trivial⟩, trivial⟩
  obtain ⟨hmessage, -⟩ := parse_inwards ht "nothing" String.length "ab".toList
  obtain ⟨-, -, -, hpushed, hfar, -⟩ := parse_inwards ht "nothing" String.length "éb".toList
  exact ⟨ht, hmessage.symm.trans rfl, (hpushed _ hfar).symm.trans rfl⟩

end Tree

end TextParser
