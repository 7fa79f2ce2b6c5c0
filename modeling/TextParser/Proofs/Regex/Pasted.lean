import TextParser.Proofs.Regex.Capped.Parts
import TextParser.Regex

/-!
A pattern pasted between `^(?:` and `)`. Main statement: a pattern that is read by itself is read
the same there, unless it ends in a comment, which takes the parenthesis in.

    a|b            ^(?:a|b)           the pattern after a look for the start
    (?x)a#b        ^(?:(?x)a#b)       refused, for the group stays open

A parenthesis behind the pattern tells the two apart: in a comment it does not matter, and anywhere
else it closes no group.
-/

namespace TextParser.Regex

open Reader

variable {t : Text} {k : Properties} {p : Pattern} {e : Expr} {r : Refusal}

/-- The expression that ties the one that `t` writes to the front of a text. -/
def pasted (t : Text) : Text := ['^', '(', '?', ':'] ++ t ++ [')']

/-! ### Reading -/

/-- The group that is open in front of a pasted pattern. -/
def pastedAround (t : Text) : OpenGroup :=
  ⟨.one ('(' :: '?' :: ':' :: (t ++ [')'])), [], ({} : Reader.Level).add .lineStart, false⟩

theorem read_pasted (t : Text) :
    Expr.read (pasted t) =
      readParts (t.length + 3) { groups := [pastedAround t] } (t ++ [')']) := by
  have hlength : (pasted t).length = t.length + 3 + 1 + 1 := by
    simp only [pasted, List.length_append, List.length_cons, List.length_nil]
    omega
  rw [Expr.read, hlength]
  generalize hfuel : t.length + 3 = fuel
  rfl

theorem within_pastedAround (t : Text) :
    Within [pastedAround t] {} { groups := [pastedAround t] } :=
  ⟨.refl _, ⟨[], rfl, .nil⟩, rfl, rfl⟩

/-- What is read by itself is read the same in the group and refused with a parenthesis behind it,
or the other way round. -/
theorem read_pasted_of_ok (h : Expr.read t = .ok e) :
    ((∃ e', Expr.read (pasted t) = .ok (.seq .lineStart (.group [] e')) ∧ SameExpr e e') ∧
        ∃ r, Expr.read (t ++ [')']) = .error r) ∨
      (∃ r, Expr.read (pasted t) = .error r) ∧
        ∃ e', Expr.read (t ++ [')']) = .ok e' ∧ SameExpr e e' := by
  obtain ⟨last, hgroups, rfl, hends⟩ := ends_of_readParts (.append t) (Nat.le_refl _) h
  have halone : t.length < (t ++ [')']).length := by
    rw [List.length_append]
    exact Nat.lt_succ_self _
  have hinside : t.length < t.length + 3 := by omega
  cases hends with
  | closed hends =>
    left
    obtain ⟨alone, ha, hreada⟩ := hends (.refl {}) halone
    obtain ⟨inside, hi, hreadi⟩ := hends (within_pastedAround t) hinside
    constructor
    · refine ⟨inside.level.expr, ?_, hi.level.expr⟩
      rw [read_pasted, hreadi, State.closeGroup_of_cons (hi.groups_eq hgroups)]
      rfl
    · rw [Expr.read, hreada, State.closeGroup_of_nil (ha.groups_eq hgroups)]
      exact ⟨_, rfl⟩
  | hidden hends =>
    right
    obtain ⟨alone, ha, hreada⟩ := hends (.refl {}) halone
    obtain ⟨inside, hi, hreadi⟩ := hends (within_pastedAround t) hinside
    constructor
    · rw [read_pasted, hreadi]
      exact State.finish_of_ne_nil (by rw [hi.groups_eq hgroups]; exact List.cons_ne_nil _ _)
    · refine ⟨alone.level.expr, ?_, ha.level.expr⟩
      rw [Expr.read, hreada, State.finish_of_nil (ha.groups_eq hgroups)]

/-- What is refused by itself is refused in the group, unless it closes that. -/
theorem read_pasted_of_error (h : Expr.read t = .error r) (hr : r.fault ≠ .groupUnopened) :
    ∃ r', Expr.read (pasted t) = .error r' := by
  rw [read_pasted]
  exact (readParts_of_error (within_pastedAround t) (List.cons_ne_nil _ _) (.append t)
    (Nat.le_refl _) (by omega) h).resolve_left hr

/-! ### Meaning -/

theorem toOption_pattern_congr {e e' : Expr} (h : SameExpr e e') :
    (e.pattern k).toOption = (e'.pattern k).toOption :=
  toOption_bind_congr (Expr.toOption_meaning_congr k h {}) fun _ => rfl

/-- In front of the group stands a look for the start of the text, whatever flags the group sets. -/
theorem pattern_pasted (e : Expr) :
    (Expr.seq .lineStart (.group [] e)).pattern k =
      e.pattern k >>= fun p => .ok (.seq (.look .textStart) p) := by
  unfold Expr.pattern
  show (((e.meaning k {} >>= _) >>= _) >>= _) = ((e.meaning k {} >>= _) >>= _)
  cases e.meaning k {} <;> rfl

theorem exists_error_of_toOption {α : Type} {x : Except Refusal α} (h : x.toOption = none) :
    ∃ r, x = .error r := by
  cases x with
  | error r => exact ⟨r, rfl⟩
  | ok a => cases h

theorem eq_ok_of_toOption {α : Type} {x : Except Refusal α} {a : α} (h : x.toOption = some a) :
    x = .ok a := by
  cases x with
  | error r => cases h
  | ok b => cases h; rfl

theorem readPattern_of_ok (h : Expr.read t = .ok e) : readPattern k t = e.pattern k := by
  rw [readPattern, h]
  rfl

theorem readPattern_of_error (h : Expr.read t = .error r) : readPattern k t = .error r := by
  rw [readPattern, h]
  rfl

/-- A pattern that is accepted by itself is accepted in the group, where it means the same and is
tied to the start of the text; there a parenthesis behind it is refused. Or it is refused in the
group, and then a parenthesis behind it makes no difference. -/
theorem readPattern_pasted (h : readPattern k t = .ok p) :
    (readPattern k (pasted t) = .ok (.seq (.look .textStart) p) ∧
        ∃ r, readPattern k (t ++ [')']) = .error r) ∨
      (∃ r, readPattern k (pasted t) = .error r) ∧ readPattern k (t ++ [')']) = .ok p := by
  obtain ⟨e, he⟩ : ∃ e, Expr.read t = .ok e := by
    cases he : Expr.read t with
    | error r => rw [readPattern_of_error he] at h; cases h
    | ok e => exact ⟨e, rfl⟩
  rw [readPattern_of_ok he] at h
  have hsame {e' : Expr} (hee : SameExpr e e') : e'.pattern k = .ok p :=
    eq_ok_of_toOption (by rw [← toOption_pattern_congr hee, h]; rfl)
  rcases read_pasted_of_ok he with ⟨⟨e', hp, hee⟩, r, hr⟩ | ⟨⟨r, hr⟩, e', hp, hee⟩
  · refine .inl ⟨?_, r, readPattern_of_error hr⟩
    rw [readPattern_of_ok hp, pattern_pasted, hsame hee]
    rfl
  · exact .inr ⟨⟨r, readPattern_of_error hr⟩, by rw [readPattern_of_ok hp, hsame hee]⟩

/-- A pattern that is refused by itself is refused in the group, unless it closes that. -/
theorem readPattern_pasted_of_error (h : readPattern k t = .error r)
    (hr : r.fault ≠ .groupUnopened) : ∃ r', readPattern k (pasted t) = .error r' := by
  cases he : Expr.read t with
  | error r' =>
    rw [readPattern_of_error he] at h
    cases h
    obtain ⟨r', hr'⟩ := read_pasted_of_error he hr
    exact ⟨r', readPattern_of_error hr'⟩
  | ok e =>
    rw [readPattern_of_ok he] at h
    rcases read_pasted_of_ok he with ⟨⟨e', hp, hee⟩, -⟩ | ⟨⟨r', hr'⟩, -⟩
    · obtain ⟨r', hr'⟩ := exists_error_of_toOption (x := e'.pattern k)
        (by rw [← toOption_pattern_congr hee, h]; rfl)
      exact ⟨r', by rw [readPattern_of_ok hp, pattern_pasted, hr']; rfl⟩
    · exact ⟨r', readPattern_of_error hr'⟩

end TextParser.Regex
