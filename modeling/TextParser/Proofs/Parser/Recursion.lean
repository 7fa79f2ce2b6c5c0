import TextParser.Proofs.Parser.Run

/-!
Recursive parsers. A body that calls the parser on shorter texts only has one parser that solves
`p = body p`, and the recursive parser is that one.

    p = (a.andThen p).orElse b        a takes something, so p goes on with a shorter text

Whether a body does so is read off how it is put together.
-/

universe u

namespace TextParser.Parser

variable {α β : Type u} {body other : Parser α → Parser β}

/-! ### Bodies that call on shorter texts -/

/-- Whether every success of a parser takes something. -/
def Progresses (p : Parser α) : Prop :=
  ∀ ⦃input : Text⦄ ⦃a : α⦄ ⦃rest : Text⦄,
    (p.parse input).value = .success a rest → rest.length < input.length

/-- Whether a body needs no more of its argument than the runs on shorter texts. -/
def CallsShorter (body : Parser α → Parser β) : Prop :=
  ∀ ⦃p q : Parser α⦄ ⦃input : Text⦄,
    (∀ rest : Text, rest.length < input.length → p.parse rest = q.parse rest) →
      (body p).parse input = (body q).parse input

namespace CallsShorter

theorem const (r : Parser β) : CallsShorter fun _ : Parser α => r :=
  fun _ _ _ _ => rfl

theorem map {γ : Type u} (h : CallsShorter body) (g : β → γ) :
    CallsShorter fun self => (body self).map g := by
  intro p q input hpq
  rw [parse_map, parse_map, h hpq]

theorem orElse (h : CallsShorter body) (h' : CallsShorter other) :
    CallsShorter fun self => (body self).orElse (other self) := by
  intro p q input hpq
  have hfirst := h hpq
  have hsecond := h' hpq
  cases hp : ((body p).parse input).value with
  | success a rest =>
    have hq : ((body q).parse input).value = .success a rest := by rw [← hfirst, hp]
    rw [parse_orElse_of_success _ hp, parse_orElse_of_success _ hq, hfirst]
  | failure f =>
    have hq : ((body q).parse input).value = .failure f := by rw [← hfirst, hp]
    rw [parse_orElse_of_failure _ hp, parse_orElse_of_failure _ hq, hfirst, hsecond]

/-- Behind a parser that takes something there is a shorter text. -/
theorem andThen {first : Parser β} (h : first.Progresses) :
    CallsShorter fun self : Parser α => first.andThen self := by
  intro p q input hpq
  cases hf : (first.parse input).value with
  | success a rest =>
    rw [parse_andThen_of_success p hf, parse_andThen_of_success q hf, hpq rest (h hf)]
  | failure f => rw [parse_andThen_of_failure p hf, parse_andThen_of_failure q hf]

end CallsShorter

/-! ### Solutions -/

variable {body : Parser α → Parser α}

/-- The recursive parser does what its body does with it. -/
theorem body_fix (h : CallsShorter body) : body (fix body) = fix body := by
  refine eq_of_parse_eq fun input => ?_
  have hrun : (fix body).parse input = runFix body input := rfl
  rw [hrun, runFix]
  refine h fun rest hrest => ?_
  dsimp only
  rw [dif_pos hrest]
  rfl

/-- No two parsers do what the body does with them. -/
theorem eq_of_body_eq (h : CallsShorter body) {p q : Parser α} (hp : body p = p)
    (hq : body q = q) : p = q := by
  refine eq_of_parse_eq fun input => ?_
  -- by induction on the length of the text, for shorter texts are all that the body asks for
  induction hn : input.length using Nat.strongRecOn generalizing input with
  | ind n ih =>
    subst hn
    rw [← hp, ← hq]
    refine h fun rest hrest => ?_
    exact ih rest.length hrest rest rfl

end TextParser.Parser
