import TextParser.Proofs.Parser.Run
import TextParser.Proofs.Text.Place

/-!
The contract of parsers: a success leaves a suffix of the text, and a failure lies at a character
boundary of it.

    input     taken  | rest                 a success
    input     front  ^ back                 a failure at the byte length of front

Every combination keeps it. For failures this hangs on the first half of the contract: what the
second part of a sequence fails on is a suffix of the whole text, and so ends where that ends.
-/

universe u

namespace TextParser.Parser

variable {α β : Type u}

/-- Whether every success leaves a suffix of the text. -/
def LeavesSuffix (p : Parser α) : Prop :=
  ∀ ⦃input : Text⦄ ⦃a : α⦄ ⦃rest : Text⦄, (p.parse input).value = .success a rest → rest <:+ input

/-- Whether every failure lies at a character boundary of the text. -/
def FailsWithin (p : Parser α) : Prop :=
  ∀ ⦃input : Text⦄ ⦃f : Failure⦄, (p.parse input).value = .failure f → input.IsBoundary f.offset

/-- What is promised of every parser. -/
structure KeepsContract (p : Parser α) : Prop where
  leavesSuffix : p.LeavesSuffix
  failsWithin : p.FailsWithin

/-! ### Suffixes -/

theorem LeavesSuffix.map {p : Parser α} (hp : p.LeavesSuffix) (g : α → β) :
    (p.map g).LeavesSuffix := by
  intro input b rest h
  rw [parse_map] at h
  obtain ⟨a, ha, -⟩ := Parsed.map_eq_success_iff.1 h
  exact hp ha

theorem LeavesSuffix.andThen {p : Parser α} {q : Parser β} (hp : p.LeavesSuffix)
    (hq : q.LeavesSuffix) : (p.andThen q).LeavesSuffix := by
  intro input c rest h
  obtain ⟨middle, hm, hr⟩ := andThen_eq_success_iff.1 h
  exact (hq hr).trans (hp hm)

theorem LeavesSuffix.orElse {p q : Parser α} (hp : p.LeavesSuffix) (hq : q.LeavesSuffix) :
    (p.orElse q).LeavesSuffix := by
  intro input a rest h
  rcases orElse_eq_success h with h | h
  · exact hp h
  · exact hq h

theorem LeavesSuffix.withError {p : Parser α} (hp : p.LeavesSuffix) (message : String) :
    (p.withError message).LeavesSuffix :=
  fun _ _ _ h => hp (withError_eq_success_iff.1 h)

theorem LeavesSuffix.reporting {p : Parser α} (hp : p.LeavesSuffix)
    (settings : Report.Settings) : (p.reporting settings).LeavesSuffix := by
  intro input a rest h
  rw [value_reporting] at h
  exact hp h

/-! ### Places of failures -/

/-- Whether `P` holds of every text and the place of a failure in it. -/
def FailsAt (P : Text → Nat → Prop) (p : Parser α) : Prop :=
  ∀ ⦃input : Text⦄ ⦃f : Failure⦄, (p.parse input).value = .failure f → P input f.offset

namespace FailsAt

variable {P : Text → Nat → Prop}

theorem map {p : Parser α} (hp : p.FailsAt P) (g : α → β) : (p.map g).FailsAt P := by
  intro input f h
  rw [parse_map] at h
  exact hp (Parsed.map_eq_failure_iff.1 h)

/-- The second part fails in what is left, which ends where the input ends. -/
theorem andThen {p : Parser α} {q : Parser β} (hp : p.FailsAt P) (hsuffix : p.LeavesSuffix)
    (hq : q.FailsAt P)
    (hmoved : ∀ {rest t : Text} {place : Nat}, P rest place → rest <:+ t →
      P t (place + (t.byteSize - rest.byteSize))) :
    (p.andThen q).FailsAt P := by
  intro input f h
  rcases andThen_eq_failure_iff.1 h with h | ⟨a, middle, e, ha, he, rfl⟩
  · exact hp h
  · exact hmoved (hq he) (hsuffix ha)

theorem orElse {p : Parser α} (hp : p.FailsAt P) (q : Parser α) : (p.orElse q).FailsAt P :=
  fun _ _ h => hp (orElse_eq_failure_iff.1 h).1

theorem withError {p : Parser α} (hp : p.FailsAt P) (message : String) :
    (p.withError message).FailsAt P := by
  intro input f h
  obtain ⟨e, he, rfl⟩ := withError_eq_failure_iff.1 h
  have hplace : P input e.offset := hp he
  exact hplace

theorem reporting {p : Parser α} (hp : p.FailsAt P) (settings : Report.Settings) :
    (p.reporting settings).FailsAt P := by
  intro input f h
  rw [value_reporting] at h
  exact hp h

end FailsAt

namespace KeepsContract

/-! ### Combinations -/

theorem failsAt {p : Parser α} (hp : p.KeepsContract) : p.FailsAt Text.IsBoundary :=
  hp.failsWithin

theorem map {p : Parser α} (hp : p.KeepsContract) (g : α → β) : (p.map g).KeepsContract :=
  ⟨hp.leavesSuffix.map g, hp.failsAt.map g⟩

theorem andThen {p : Parser α} {q : Parser β} (hp : p.KeepsContract) (hq : q.KeepsContract) :
    (p.andThen q).KeepsContract :=
  ⟨hp.leavesSuffix.andThen hq.leavesSuffix,
    hp.failsAt.andThen hp.leavesSuffix hq.failsAt Text.IsBoundary.add_sub⟩

theorem orElse {p q : Parser α} (hp : p.KeepsContract) (hq : q.KeepsContract) :
    (p.orElse q).KeepsContract :=
  ⟨hp.leavesSuffix.orElse hq.leavesSuffix, hp.failsAt.orElse q⟩

theorem withError {p : Parser α} (hp : p.KeepsContract) (message : String) :
    (p.withError message).KeepsContract :=
  ⟨hp.leavesSuffix.withError message, hp.failsAt.withError message⟩

theorem reporting {p : Parser α} (hp : p.KeepsContract) (settings : Report.Settings) :
    (p.reporting settings).KeepsContract :=
  ⟨hp.leavesSuffix.reporting settings, hp.failsAt.reporting settings⟩

theorem orElseWithError {p q : Parser α} (hp : p.KeepsContract) (hq : q.KeepsContract)
    (message : String) : (p.orElseWithError q message).KeepsContract :=
  (hp.orElse hq).withError message

theorem keepLeft {p : Parser α} {q : Parser β} (hp : p.KeepsContract) (hq : q.KeepsContract) :
    (p.keepLeft q).KeepsContract :=
  (hp.andThen hq).map _

theorem keepRight {p : Parser α} {q : Parser β} (hp : p.KeepsContract) (hq : q.KeepsContract) :
    (p.keepRight q).KeepsContract :=
  (hp.andThen hq).map _

theorem choice {ps : List (Parser α)} {p : Parser α} (hps : ∀ q ∈ ps, q.KeepsContract)
    (h : (Parser.choice ps).value = .ok p) : p.KeepsContract :=
  choice_of_orElse (fun hp hq => hp.orElse hq) hps h

/-! ### Primitive parsers -/

theorem fail_zero (message : String) : (fail 0 message : Parser α).KeepsContract := by
  refine ⟨fun _ _ _ h => (by cases h), ?_⟩
  rintro input f ⟨⟩
  exact input.isBoundary_zero

theorem endOfInput : Parser.endOfInput.{u}.KeepsContract := by
  constructor
  · rintro (_ | ⟨c, t⟩) a rest ⟨⟩
    exact List.suffix_rfl
  · rintro (_ | ⟨c, t⟩) f ⟨⟩
    exact Text.isBoundary_zero _

/-- What stands after a literal is a suffix of the text. -/
theorem dropStart?_suffix : ∀ {start t rest : Text}, Text.dropStart? start t = some rest →
    rest <:+ t
  | [], t, rest, h => by
    rw [Text.dropStart?] at h
    cases h
    exact List.suffix_rfl
  | _ :: _, [], rest, h => by rw [Text.dropStart?] at h; cases h
  | s :: start, c :: t, rest, h => by
    rw [Text.dropStart?] at h
    split at h
    · exact (dropStart?_suffix h).trans (List.suffix_cons c t)
    · cases h

theorem literal (text : String) : (Parser.literal text).KeepsContract := by
  constructor
  · intro input value rest h
    simp only [Parser.literal] at h
    split at h
    · cases h
      exact dropStart?_suffix ‹_›
    · cases h
  · intro input f h
    simp only [Parser.literal] at h
    split at h
    · cases h
    · cases h
      exact input.isBoundary_zero

/-! ### Recursion -/

/-- Inside the body of a recursive parser the parser itself keeps the contract, for it runs on
shorter texts only; so the body keeps it, and with it the whole. -/
theorem fix {body : Parser α → Parser α}
    (hbody : ∀ self : Parser α, self.KeepsContract → (body self).KeepsContract) :
    (Parser.fix body).KeepsContract := by
  -- by induction on a bound on the length of the texts
  suffices h : ∀ n (input : Text), input.length < n →
      (∀ a rest, (runFix body input).value = .success a rest → rest <:+ input) ∧
      (∀ f, (runFix body input).value = .failure f → input.IsBoundary f.offset) from
    ⟨fun input a rest => (h _ input (Nat.lt_succ_self _)).1 a rest,
      fun input f => (h _ input (Nat.lt_succ_self _)).2 f⟩
  intro n
  induction n with
  | zero => intro input hn; cases hn
  | succ n ih =>
    intro input hn
    have hself : KeepsContract (⟨fun rest =>
        if rest.length < input.length then runFix body rest
        else pure (.failure ⟨0, noProgress⟩)⟩ : Parser α) := by
      constructor
      · intro text a rest hr
        dsimp only at hr
        split at hr
        · exact (ih text (by omega)).1 a rest hr
        · cases hr
      · intro text f hf
        dsimp only at hf
        split at hf
        · exact (ih text (by omega)).2 f hf
        · cases hf
          exact text.isBoundary_zero
    rw [runFix]
    exact ⟨fun a rest hr => (hbody _ hself).leavesSuffix hr,
      fun f hf => (hbody _ hself).failsWithin hf⟩

end KeepsContract

end TextParser.Parser
