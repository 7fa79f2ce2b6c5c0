import TextParser.Regex.Meaning

/-!
Expressions without their places.

    a[b-c]   at 0 to 6, and with three characters in front of it at 3 to 9

Places only say where a fault is. What an expression means, and whether it means anything, is told
by the expression without them.
-/

namespace TextParser.Regex

/-- No place in particular. -/
def Span.nowhere : Span := ⟨0, 0⟩

/-- The class without its places. -/
def ClassExpr.bare : ClassExpr → ClassExpr
  | .empty => .empty
  | .atom a _ => .atom a .nowhere
  | .range first _ last _ => .range first .nowhere last .nowhere
  | .ascii c negated _ => .ascii c negated .nowhere
  | .bracketed negated inner _ => .bracketed negated inner.bare .nowhere
  | .union a b => .union a.bare b.bare
  | .combine op a b => .combine op a.bare b.bare

/-- The expression without its places. -/
def Expr.bare : Expr → Expr
  | .empty => .empty
  | .atom a _ => .atom a .nowhere
  | .dot _ => .dot .nowhere
  | .lineStart => .lineStart
  | .lineEnd => .lineEnd
  | .textStart => .textStart
  | .textEnd => .textEnd
  | .word side => .word side
  | .bracketed negated inner _ => .bracketed negated inner.bare .nowhere
  | .switch s => .switch s
  | .group s inner => .group s inner.bare
  | .seq first second => .seq first.bare second.bare
  | .alt first second => .alt first.bare second.bare
  | .times body min max greedy => .times body.bare min max greedy

theorem ClassExpr.bare_eq_empty_iff {e : ClassExpr} : e.bare = .empty ↔ e = .empty := by
  cases e <;> simp [bare]

/-! ### Values, refusals aside -/

variable {α β : Type} {f : Flags} (k : Properties) (span place : Span)

theorem toOption_bind (x : Except Refusal α) (g : α → Except Refusal β) :
    (x >>= g).toOption = x.toOption.bind fun a => (g a).toOption := by
  cases x <;> rfl

/-- Values that are there alike are put to use alike. -/
theorem toOption_bind_congr {x y : Except Refusal α} {g h : α → Except Refusal β}
    (hxy : x.toOption = y.toOption) (hgh : ∀ a, (g a).toOption = (h a).toOption) :
    (x >>= g).toOption = (y >>= h).toOption := by
  rw [toOption_bind, toOption_bind, hxy]
  exact congrArg _ (funext hgh)

theorem Literal.toOption_scalar (l : Literal) :
    (l.scalar span f).toOption = (l.scalar place f).toOption := by
  unfold scalar
  split <;> rfl

theorem Literal.toOption_inClass (l : Literal) :
    (l.inClass span f).toOption = (l.inClass place f).toOption :=
  toOption_bind_congr (l.toOption_scalar span place) fun c => by split <;> rfl

theorem ShortClass.toOption_meaning (c : ShortClass) (negated : Bool) :
    (c.meaning negated span f).toOption = (c.meaning negated place f).toOption := by
  simp only [meaning]
  split
  · rfl
  · split <;> rfl

theorem toOption_finishSet (s : CharSet) (negated : Bool) :
    (finishSet s negated span f).toOption = (finishSet s negated place f).toOption := by
  simp only [finishSet]
  split <;> split <;> rfl

theorem PropertyQuery.toOption_set (q : PropertyQuery) :
    (q.set k span).toOption = (q.set k place).toOption := by
  unfold set
  split <;> rfl

theorem PropertyQuery.toOption_meaning (q : PropertyQuery) (negated : Bool) :
    (q.meaning k negated span f).toOption = (q.meaning k negated place f).toOption := by
  unfold meaning
  split
  · exact toOption_bind_congr (q.toOption_set k span place)
      fun s => toOption_finishSet span place s negated
  · rfl

theorem Atom.toOption_meaning (a : Atom) :
    (a.meaning k span f).toOption = (a.meaning k place f).toOption := by
  cases a with
  | literal l => exact toOption_bind_congr (l.toOption_scalar span place) fun _ => rfl
  | short c negated => exact c.toOption_meaning span place negated
  | property q negated => exact q.toOption_meaning k span place negated

theorem Atom.toOption_inClass (a : Atom) :
    (a.inClass k span f).toOption = (a.inClass k place f).toOption := by
  cases a with
  | literal l => exact toOption_bind_congr (l.toOption_inClass span place) fun _ => rfl
  | short c negated => exact c.toOption_meaning span place negated
  | property q negated => exact q.toOption_meaning k span place negated

/-! ### Meanings -/

theorem ClassExpr.toOption_meaning_bare (e : ClassExpr) (f : Flags) :
    (e.bare.meaning k f).toOption = (e.meaning k f).toOption := by
  induction e with
  | empty => rfl
  | atom a span => exact a.toOption_inClass k _ _
  | range first firstSpan last lastSpan =>
    exact toOption_bind_congr (first.toOption_inClass _ _) fun _ =>
      toOption_bind_congr (last.toOption_inClass _ _) fun _ => rfl
  | ascii c negated span => exact toOption_finishSet _ _ _ _
  | bracketed negated inner span ih =>
    exact toOption_bind_congr ih fun s => toOption_finishSet _ _ s negated
  | union a b iha ihb =>
    exact toOption_bind_congr iha fun _ => toOption_bind_congr ihb fun _ => rfl
  | combine op a b iha ihb =>
    exact toOption_bind_congr iha fun _ => toOption_bind_congr ihb fun _ => rfl

theorem toOption_dotMeaning (f : Flags) :
    (dotMeaning span f).toOption = (dotMeaning place f).toOption := by
  unfold dotMeaning
  repeat (split; · rfl)
  rfl

theorem Expr.toOption_meaning_bare (e : Expr) (f : Flags) :
    (e.bare.meaning k f).toOption = (e.meaning k f).toOption := by
  induction e generalizing f with
  | empty | lineStart | lineEnd | textStart | textEnd | word | switch => rfl
  | atom a span => exact toOption_bind_congr (a.toOption_meaning k _ _) fun _ => rfl
  | dot span => exact toOption_bind_congr (toOption_dotMeaning _ _ f) fun _ => rfl
  | bracketed negated inner span =>
    exact toOption_bind_congr (inner.toOption_meaning_bare k f) fun s =>
      toOption_bind_congr (toOption_finishSet _ _ s negated) fun _ => rfl
  | group s inner ih => exact toOption_bind_congr (ih (f.setAll s)) fun _ => rfl
  | seq a b iha ihb =>
    exact toOption_bind_congr (iha f) fun p => toOption_bind_congr (ihb p.2) fun _ => rfl
  | alt a b iha ihb =>
    exact toOption_bind_congr (iha f) fun p => toOption_bind_congr (ihb p.2) fun _ => rfl
  | times body min max greedy ih => exact toOption_bind_congr (ih f) fun _ => rfl

/-- Expressions that differ in places only have the same meaning, if any. -/
theorem Expr.toOption_meaning_congr {e e' : Expr} (h : e.bare = e'.bare) (f : Flags) :
    (e.meaning k f).toOption = (e'.meaning k f).toOption := by
  rw [← e.toOption_meaning_bare, h, e'.toOption_meaning_bare]

end TextParser.Regex
