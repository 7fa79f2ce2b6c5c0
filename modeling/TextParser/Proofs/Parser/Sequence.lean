import TextParser.Proofs.Parser.Contract

/-!
Sequences. However parsers are put one after the other, in pairs or keeping one side, a run is that
of the parsers from left to right. Main statement: groupings of the same parsers agree on every
text, in what they leave, in what they fail with and in what they record.

    input       piece of p | piece of q | rest          consumed so far
    grouping    (p q) r    p (q r)                      a sum of two differences either way

A grouping moves a failure on at each of its nodes by a difference of lengths, left to right by the
bytes consumed so far. The two are the same sum because each rest is a suffix of the one before.
-/

universe u v w

namespace TextParser

/-! ### Runs that agree -/

/-- Both results leave the same text, with values related by `R`, or both are the same failure. -/
inductive Parsed.Agree {α : Type u} {β : Type v} (R : α → β → Prop) : Parsed α → Parsed β → Prop
  | success {a : α} {b : β} (h : R a b) (rest : Text) : Agree R (success a rest) (success b rest)
  | failure (e : Failure) : Agree R (failure e) (failure e)

/-- Two runs with results that agree and with the same record. -/
structure SameRun {α : Type u} {β : Type v} (R : α → β → Prop) (x : Logged (Parsed α))
    (y : Logged (Parsed β)) : Prop where
  value : Parsed.Agree R x.value y.value
  log : x.log = y.log

namespace SameRun

variable {α : Type u} {β : Type v} {γ : Type w} {R : α → β → Prop} {S : γ → β → Prop}
  {x : Logged (Parsed α)} {y : Logged (Parsed β)} {z : Logged (Parsed γ)}

/-- Runs that agree both succeed or both fail. -/
theorem success_or_failure (h : SameRun R x y) :
    (∃ a b rest, x.value = .success a rest ∧ y.value = .success b rest ∧ R a b) ∨
      ∃ f, x.value = .failure f ∧ y.value = .failure f := by
  obtain ⟨vx, lx⟩ := x
  obtain ⟨vy, ly⟩ := y
  obtain ⟨hv, rfl⟩ := h
  cases hv with
  | success h rest => exact .inl ⟨_, _, rest, rfl, rfl, h⟩
  | failure e => exact .inr ⟨e, rfl, rfl⟩

/-- The values on the left may be changed, as far as the new relation follows. -/
theorem map {R' : γ → β → Prop} (h : SameRun R x y) (g : α → γ)
    (hR : ∀ a b, R a b → R' (g a) b) : SameRun R' ⟨x.value.map g, x.log⟩ y := by
  refine ⟨?_, h.log⟩
  rcases h.success_or_failure with ⟨a, b, rest, hx, hy, hr⟩ | ⟨f, hx, hy⟩
  · rw [hx, hy]
    exact .success (hR a b hr) rest
  · rw [hx, hy]
    exact .failure f

theorem mono {R' : α → β → Prop} (h : SameRun R x y) (hR : ∀ a b, R a b → R' a b) :
    SameRun R' x y := by
  have hmap : SameRun R' ⟨x.value.map id, x.log⟩ y := h.map id hR
  rwa [Parsed.map_id] at hmap

/-- Two runs that agree with a third agree with each other. -/
theorem of_common (hx : SameRun R x y) (hz : SameRun S z y) :
    SameRun (fun a c => ∃ b, R a b ∧ S c b) x z := by
  refine ⟨?_, hx.log.trans hz.log.symm⟩
  rcases hx.success_or_failure with ⟨a, b, rest, hvx, hvy, hr⟩ | ⟨f, hvx, hvy⟩
  · rcases hz.success_or_failure with ⟨c, b', rest', hvz, hvy', hs⟩ | ⟨f, hvz, hvy'⟩
    · obtain ⟨rfl, rfl⟩ := Parsed.success.inj (hvy.symm.trans hvy')
      rw [hvx, hvz]
      exact .success ⟨b, hr, hs⟩ rest
    · cases hvy.symm.trans hvy'
  · rcases hz.success_or_failure with ⟨c, b, rest, hvz, hvy', -⟩ | ⟨g, hvz, hvy'⟩
    · cases hvy.symm.trans hvy'
    · obtain rfl := Parsed.failure.inj (hvy.symm.trans hvy')
      rw [hvx, hvz]
      exact .failure f

/-- Runs that agree take the same number of bytes. -/
theorem consumed?_eq (h : SameRun R x y) (input : Text) :
    x.value.consumed? input = y.value.consumed? input := by
  rcases h.success_or_failure with ⟨a, b, rest, hx, hy, -⟩ | ⟨f, hx, hy⟩ <;> rw [hx, hy] <;> rfl

end SameRun

/-! ### Parsers in order -/

/-- Runs parsers from left to right, each on what the one before left, up to the first failure,
which is moved on by the bytes consumed so far. The values are listed with their types. -/
def Parser.inOrder (consumed : Nat) :
    List ((α : Type) × Parser α) → Text → Logged (Parsed (List ((α : Type) × α)))
  | [], input => ⟨.success [] input, []⟩
  | ⟨α, p⟩ :: ps, input =>
    match p.parse input with
    | ⟨.failure f, log⟩ => ⟨.failure (f.shifted consumed), log⟩
    | ⟨.success a rest, log⟩ =>
      let later := inOrder (consumed + (input.byteSize - rest.byteSize)) ps rest
      ⟨later.value.map (⟨α, a⟩ :: ·), log ++ later.log⟩

namespace Parser

variable {α β : Type} {ps qs : List ((α : Type) × Parser α)} {consumed : Nat} {input rest : Text}
  {f : Failure}

theorem inOrder_cons_of_failure {p : Parser α} (h : (p.parse input).value = .failure f) :
    inOrder consumed (⟨α, p⟩ :: ps) input =
      ⟨.failure (f.shifted consumed), (p.parse input).log⟩ := by
  rw [inOrder]
  generalize p.parse input = x at h ⊢
  obtain ⟨v, log⟩ := x
  cases h
  rfl

theorem inOrder_cons_of_success {p : Parser α} {a : α}
    (h : (p.parse input).value = .success a rest) :
    inOrder consumed (⟨α, p⟩ :: ps) input =
      ⟨(inOrder (consumed + (input.byteSize - rest.byteSize)) ps rest).value.map (⟨α, a⟩ :: ·),
        (p.parse input).log ++
          (inOrder (consumed + (input.byteSize - rest.byteSize)) ps rest).log⟩ := by
  rw [inOrder]
  generalize p.parse input = x at h ⊢
  obtain ⟨v, log⟩ := x
  cases h
  rfl

/-- Bytes consumed before the first parser move a failure on and do nothing else. -/
theorem inOrder_add (d : Nat) (ps : List ((α : Type) × Parser α)) :
    ∀ (consumed : Nat) (input : Text), inOrder (consumed + d) ps input =
      ⟨(inOrder consumed ps input).value.shifted d, (inOrder consumed ps input).log⟩ := by
  induction ps with
  | nil => intro consumed input; rfl
  | cons part ps ih =>
    intro consumed input
    obtain ⟨α, p⟩ := part
    cases hp : (p.parse input).value with
    | failure f =>
      rw [inOrder_cons_of_failure hp, inOrder_cons_of_failure hp, Parsed.shifted_failure]
      simp only [Failure.shifted, Nat.add_assoc]
    | success a rest =>
      rw [inOrder_cons_of_success hp, inOrder_cons_of_success hp, Nat.add_right_comm, ih]
      cases (inOrder (consumed + (input.byteSize - rest.byteSize)) ps rest).value <;> rfl

theorem inOrder_leavesSuffix (ps : List ((α : Type) × Parser α))
    (hps : ∀ part ∈ ps, part.2.LeavesSuffix) : ∀ {consumed : Nat} {input rest : Text}
    {vs : List ((α : Type) × α)}, (inOrder consumed ps input).value = .success vs rest →
      rest <:+ input := by
  induction ps with
  | nil =>
    rintro consumed input rest vs ⟨⟩
    exact List.suffix_rfl
  | cons part ps ih =>
    intro consumed input rest vs h
    obtain ⟨α, p⟩ := part
    cases hp : (p.parse input).value with
    | failure f => rw [inOrder_cons_of_failure hp] at h; cases h
    | success a middle =>
      rw [inOrder_cons_of_success hp] at h
      obtain ⟨others, ho, -⟩ := Parsed.map_eq_success_iff.1 h
      have hmiddle : middle <:+ input := hps ⟨α, p⟩ List.mem_cons_self hp
      exact (ih (fun q hq => hps q (List.mem_cons_of_mem _ hq)) ho).trans hmiddle

theorem inOrder_append_of_failure (ps qs : List ((α : Type) × Parser α)) :
    ∀ {consumed : Nat} {input : Text} {f : Failure},
    (inOrder consumed ps input).value = .failure f →
      inOrder consumed (ps ++ qs) input = ⟨.failure f, (inOrder consumed ps input).log⟩ := by
  induction ps with
  | nil => rintro consumed input f ⟨⟩
  | cons part ps ih =>
    intro consumed input f h
    obtain ⟨α, p⟩ := part
    rw [List.cons_append]
    cases hp : (p.parse input).value with
    | failure e =>
      rw [inOrder_cons_of_failure hp] at h ⊢
      rw [inOrder_cons_of_failure hp]
      cases h
      rfl
    | success a rest =>
      rw [inOrder_cons_of_success hp] at h ⊢
      rw [inOrder_cons_of_success hp, ih (Parsed.map_eq_failure_iff.1 h)]
      rfl

/-- More parsers run on what the first ones left. The bytes that each of these took add up to the
bytes that they took together, for each of their rests is a suffix of the one before. -/
theorem inOrder_append_of_success (ps qs : List ((α : Type) × Parser α))
    (hps : ∀ part ∈ ps, part.2.LeavesSuffix) : ∀ {consumed : Nat} {input rest : Text}
    {vs : List ((α : Type) × α)}, (inOrder consumed ps input).value = .success vs rest →
      inOrder consumed (ps ++ qs) input =
        ⟨(inOrder (consumed + (input.byteSize - rest.byteSize)) qs rest).value.map (vs ++ ·),
          (inOrder consumed ps input).log ++
            (inOrder (consumed + (input.byteSize - rest.byteSize)) qs rest).log⟩ := by
  induction ps with
  | nil =>
    rintro consumed input rest vs ⟨⟩
    rw [Nat.sub_self, Nat.add_zero, List.nil_append]
    cases h : inOrder consumed qs input with
    | mk value log => cases value <;> rfl
  | cons part ps ih =>
    intro consumed input rest vs h
    obtain ⟨α, p⟩ := part
    rw [List.cons_append]
    cases hp : (p.parse input).value with
    | failure e => rw [inOrder_cons_of_failure hp] at h; cases h
    | success a middle =>
      rw [inOrder_cons_of_success hp] at h
      obtain ⟨others, ho, rfl⟩ := Parsed.map_eq_success_iff.1 h
      have hlater : ∀ part ∈ ps, part.2.LeavesSuffix := fun q hq =>
        hps q (List.mem_cons_of_mem _ hq)
      have hmiddle : middle.byteSize ≤ input.byteSize :=
        Text.byteSize_le_of_suffix (hps ⟨α, p⟩ List.mem_cons_self hp)
      have hrest : rest.byteSize ≤ middle.byteSize :=
        Text.byteSize_le_of_suffix (inOrder_leavesSuffix ps hlater ho)
      have hsum : consumed + (input.byteSize - middle.byteSize) +
          (middle.byteSize - rest.byteSize) = consumed + (input.byteSize - rest.byteSize) := by
        omega
      rw [inOrder_cons_of_success hp, inOrder_cons_of_success hp, ih hlater ho, hsum]
      dsimp only
      rw [List.append_assoc]
      cases (inOrder (consumed + (input.byteSize - rest.byteSize)) qs rest).value <;> rfl

/-- Two parsers that run as lists of parts do are in sequence the lists in sequence. -/
theorem sameRun_andThen {p : Parser α} {q : Parser β} {R : α → List ((γ : Type) × γ) → Prop}
    {S : β → List ((γ : Type) × γ) → Prop} (hps : ∀ part ∈ ps, part.2.LeavesSuffix)
    (hp : ∀ input, SameRun R (p.parse input) (inOrder 0 ps input))
    (hq : ∀ input, SameRun S (q.parse input) (inOrder 0 qs input)) (input : Text) :
    SameRun (fun c vs => ∃ us ws, vs = us ++ ws ∧ R c.1 us ∧ S c.2 ws)
      ((p.andThen q).parse input) (inOrder 0 (ps ++ qs) input) := by
  have hfront := hp input
  rcases hfront.success_or_failure with ⟨a, us, rest, ha, hus, hR⟩ | ⟨f, hf, href⟩
  · have hback := hq rest
    rw [parse_andThen_of_success q ha, inOrder_append_of_success ps qs hps hus, inOrder_add,
      hfront.log]
    rcases hback.success_or_failure with ⟨b, ws, final, hb, hws, hS⟩ | ⟨e, he, hre⟩
    · rw [hb, hws, hback.log]
      exact ⟨.success ⟨us, ws, rfl, hR, hS⟩ final, rfl⟩
    · rw [he, hre, hback.log]
      exact ⟨.failure _, rfl⟩
  · rw [parse_andThen_of_failure q hf, inOrder_append_of_failure ps qs href, hfront.log]
    exact ⟨.failure f, rfl⟩

end Parser

/-! ### Groupings -/

/-- Parsers in a row, grouped in pairs of which both values are kept or only one. -/
inductive Sequence : Type → Type 1
  | one {α : Type} (p : Parser α) : Sequence α
  | both {α β : Type} (front : Sequence α) (back : Sequence β) : Sequence (α × β)
  | left {α β : Type} (front : Sequence α) (back : Sequence β) : Sequence α
  | right {α β : Type} (front : Sequence α) (back : Sequence β) : Sequence β

namespace Sequence

/-- The parser that the grouping stands for. -/
def parser : {α : Type} → Sequence α → Parser α
  | _, one p => p
  | _, both front back => front.parser.andThen back.parser
  | _, left front back => front.parser.keepLeft back.parser
  | _, right front back => front.parser.keepRight back.parser

/-- The parsers from left to right. -/
def parts : {α : Type} → Sequence α → List ((β : Type) × Parser β)
  | α, one p => [⟨α, p⟩]
  | _, both front back => front.parts ++ back.parts
  | _, left front back => front.parts ++ back.parts
  | _, right front back => front.parts ++ back.parts

/-- Whether both values are kept of every pair. -/
def PairsOnly : {α : Type} → Sequence α → Prop
  | _, one _ => True
  | _, both front back => front.PairsOnly ∧ back.PairsOnly
  | _, left _ _ => False
  | _, right _ _ => False

/-- The kept values of the parts, from left to right. -/
def values : {α : Type} → Sequence α → α → List ((β : Type) × β)
  | α, one _, a => [⟨α, a⟩]
  | _, both front back, (a, b) => front.values a ++ back.values b
  | _, left front _, a => front.values a
  | _, right _ back, b => back.values b

/-- A grouping runs as its parts do in order. -/
theorem sameRun_inOrder {α : Type} (s : Sequence α) (h : ∀ part ∈ s.parts, part.2.LeavesSuffix) :
    ∀ input, SameRun (fun a vs => s.PairsOnly → s.values a = vs) (s.parser.parse input)
      (Parser.inOrder 0 s.parts input) := by
  induction s with
  | one p =>
    intro input
    cases hp : (p.parse input).value with
    | success a rest =>
      rw [parts, Parser.inOrder_cons_of_success hp]
      refine ⟨?_, (List.append_nil _).symm⟩
      rw [parser, hp]
      exact .success (fun _ => rfl) rest
    | failure f =>
      rw [parts, Parser.inOrder_cons_of_failure hp]
      refine ⟨?_, rfl⟩
      rw [parser, hp]
      exact .failure f
  | both front back ihf ihb =>
    intro input
    obtain ⟨hf, hb⟩ := List.forall_mem_append.1 h
    refine (Parser.sameRun_andThen hf (ihf hf) (ihb hb) input).mono ?_
    rintro ⟨a, b⟩ _ ⟨us, ws, rfl, hus, hws⟩ ⟨hfp, hbp⟩
    rw [values, hus hfp, hws hbp]
  | left front back ihf ihb =>
    intro input
    obtain ⟨hf, hb⟩ := List.forall_mem_append.1 h
    rw [parser, Parser.keepLeft, Parser.parse_map]
    refine (Parser.sameRun_andThen hf (ihf hf) (ihb hb) input).map _ ?_
    exact fun _ _ _ hpairs => hpairs.elim
  | right front back ihf ihb =>
    intro input
    obtain ⟨hf, hb⟩ := List.forall_mem_append.1 h
    rw [parser, Parser.keepRight, Parser.parse_map]
    refine (Parser.sameRun_andThen hf (ihf hf) (ihb hb) input).map _ ?_
    exact fun _ _ _ hpairs => hpairs.elim

/-- Groupings of the same parsers run alike on every text: both succeed, with the same rest and
the same number of bytes taken, or both fail in the same way, with the same record; and if all
values are kept, these are the same from left to right. Each runs as the parsers do in order. -/
theorem sameRun_regroup {α β : Type} {s : Sequence α} {t : Sequence β} (hst : s.parts = t.parts)
    (h : ∀ part ∈ s.parts, part.2.LeavesSuffix) (input : Text) :
    SameRun (fun a b => s.PairsOnly → t.PairsOnly → s.values a = t.values b)
        (s.parser.parse input) (t.parser.parse input) ∧
      (s.parser.parse input).value.consumed? input =
        (t.parser.parse input).value.consumed? input ∧
      SameRun (fun a vs => s.PairsOnly → s.values a = vs) (s.parser.parse input)
        (Parser.inOrder 0 s.parts input) ∧
      SameRun (fun b vs => t.PairsOnly → t.values b = vs) (t.parser.parse input)
        (Parser.inOrder 0 s.parts input) := by
  have hs := s.sameRun_inOrder h input
  have ht := t.sameRun_inOrder (hst ▸ h) input
  rw [← hst] at ht
  have hboth := hs.of_common ht
  refine ⟨hboth.mono ?_, hboth.consumed?_eq input, hs, ht⟩
  rintro a b ⟨vs, ha, hb⟩ hsp htp
  rw [ha hsp, hb htp]

/-- Three letters, of which the first two are a pair. -/
def frontPaired : Sequence ((String × String) × String) :=
  .both (.both (.one (.literal "a")) (.one (.literal "é"))) (.one (.literal "b"))

/-- The same three letters, of which the last two are a pair. -/
def backPaired : Sequence (String × String × String) :=
  .both (.one (.literal "a")) (.both (.one (.literal "é")) (.one (.literal "b")))

/-- The third letter is missing after three bytes, whichever two are the pair. -/
theorem sameRun_regroup_letters :
    frontPaired.parts = backPaired.parts ∧
      (frontPaired.parser.parse "aéc".toList).value = .failure ⟨3, "expected b"⟩ ∧
      SameRun (fun a b => frontPaired.PairsOnly → backPaired.PairsOnly →
          frontPaired.values a = backPaired.values b)
        (frontPaired.parser.parse "aéc".toList) (backPaired.parser.parse "aéc".toList) := by
  have hparts : frontPaired.parts = backPaired.parts := rfl
  have h : ∀ part ∈ frontPaired.parts, part.2.LeavesSuffix := by
    have hletter : ∀ text, (Parser.literal text).LeavesSuffix := fun text =>
      (Parser.KeepsContract.literal text).leavesSuffix
    simp only [frontPaired, parts, List.cons_append, List.nil_append, List.forall_mem_cons]
    exact ⟨hletter _, hletter _, hletter _, List.forall_mem_nil _⟩
  exact ⟨hparts, rfl, (sameRun_regroup hparts h "aéc".toList).1⟩

end Sequence

end TextParser
