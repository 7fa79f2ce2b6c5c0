import TextParser.Regex.Reader.Blank

/-!
A text and the same text with a closing parenthesis behind it, read side by side.

    read          left
    a b           c d
    a b           c d )

The two are read alike until the first one ends. There the parenthesis is left of the second, or
nothing is, if it stood in a comment.
-/

namespace TextParser.Regex.Reader

open Unicode (isWhiteSpace)

/-- Whether `u` is `t` with a closing parenthesis behind it, or with one that was skipped. -/
inductive Capped : Text → Text → Prop
  | hidden : Capped [] []
  | closer : Capped [] [')']
  | cons (c : Char) {t u : Text} (h : Capped t u) : Capped (c :: t) (c :: u)

namespace Capped

variable {t u : Text} {p : Char → Bool}

theorem append : ∀ t : Text, Capped t (t ++ [')'])
  | [] => closer
  | c :: t => cons c (append t)

/-- The two texts end together, or the parenthesis is left, or both go on alike. -/
theorem split (h : Capped t u) :
    t = [] ∧ u = [] ∨ t = [] ∧ u = [')'] ∨
      ∃ c t' u', t = c :: t' ∧ u = c :: u' ∧ Capped t' u' := by
  cases h with
  | hidden => exact .inl ⟨rfl, rfl⟩
  | closer => exact .inr (.inl ⟨rfl, rfl⟩)
  | cons c h => exact .inr (.inr ⟨c, _, _, rfl, rfl, h⟩)

theorem of_cons_left {c : Char} (h : Capped (c :: t) u) : ∃ u', u = c :: u' ∧ Capped t u' := by
  cases h with
  | cons _ h => exact ⟨_, rfl, h⟩

/-- Any character but the parenthesis stands in both texts. -/
theorem of_cons_right {c : Char} (h : Capped t (c :: u)) (hc : c ≠ ')') :
    ∃ t', t = c :: t' ∧ Capped t' u := by
  cases h with
  | closer => exact absurd rfl hc
  | cons _ h => exact ⟨_, rfl, h⟩

theorem drop_one (h : Capped t u) : Capped (t.drop 1) (u.drop 1) := by
  cases h with
  | hidden => exact hidden
  | closer => exact hidden
  | cons c h => exact h

theorem length_le (h : Capped t u) : t.length ≤ u.length := by
  induction h with
  | hidden => exact Nat.le_refl _
  | closer => exact Nat.zero_le _
  | cons c _ ih => exact Nat.succ_le_succ ih

/-- A character at the front stands at both fronts, unless it is the parenthesis. -/
theorem head?_beq (h : Capped t u) {c : Char} (hc : c ≠ ')') :
    (u.head? == some c) = (t.head? == some c) := by
  cases h with
  | hidden => rfl
  | closer => simpa using Ne.symm hc
  | cons d _ => rfl

/-! ### Gathering -/

/-- Characters are gathered alike, unless the parenthesis is one of them. -/
theorem gatherVerbose (h : Capped t u) (p : Char → Bool) (comment : Bool) :
    (Reader.gatherVerbose p comment u).1 = (Reader.gatherVerbose p comment t).1 ∧
        Capped (Reader.gatherVerbose p comment t).2 (Reader.gatherVerbose p comment u).2 ∨
      p ')' ∧ (Reader.gatherVerbose p comment t).2 = [] ∧
        (Reader.gatherVerbose p comment u).2 = [] := by
  induction h generalizing comment with
  | hidden => exact .inl ⟨rfl, by cases comment <;> exact hidden⟩
  | closer =>
    cases comment with
    | true => exact .inl ⟨rfl, hidden⟩
    | false =>
      have hblank : isWhiteSpace ')' = false := by decide
      by_cases hp : p ')'
      · exact .inr ⟨hp, rfl, by simp [Reader.gatherVerbose, hblank, hp]⟩
      · refine .inl ?_
        simp only [Reader.gatherVerbose, hblank, hp, Bool.false_eq_true, if_false]
        exact ⟨rfl, closer⟩
  | cons c h ih =>
    cases comment with
    | true => exact ih (c != '\n')
    | false =>
      simp only [Reader.gatherVerbose]
      split
      · exact ih false
      · split
        · exact ih true
        · split
          · rcases ih false with ⟨htaken, hleft⟩ | hend
            · exact .inl ⟨by rw [htaken], hleft⟩
            · exact .inr hend
          · exact .inl ⟨rfl, cons c h⟩

theorem gather (h : Capped t u) (verbose : Bool) (p : Char → Bool) :
    (Reader.gather verbose p u).1 = (Reader.gather verbose p t).1 ∧
        Capped (Reader.gather verbose p t).2 (Reader.gather verbose p u).2 ∨
      p ')' ∧ (Reader.gather verbose p t).2 = [] ∧ (Reader.gather verbose p u).2 = [] := by
  cases verbose with
  | true => exact h.gatherVerbose p false
  | false =>
    simp only [Reader.gather, Bool.false_eq_true, if_false]
    induction h with
    | hidden => exact .inl ⟨rfl, hidden⟩
    | closer =>
      by_cases hp : p ')'
      · exact .inr ⟨hp, rfl, by simp [hp]⟩
      · exact .inl (by simpa [hp] using closer)
    | cons c h ih =>
      simp only [List.takeWhile_cons, List.dropWhile_cons]
      split
      · rcases ih with ⟨htaken, hleft⟩ | hend
        · exact .inl ⟨by rw [htaken], hleft⟩
        · exact .inr hend
      · exact .inl ⟨rfl, cons c h⟩

theorem gather_of_not (h : Capped t u) (verbose : Bool) (hp : p ')' = false) :
    (Reader.gather verbose p u).1 = (Reader.gather verbose p t).1 ∧
      Capped (Reader.gather verbose p t).2 (Reader.gather verbose p u).2 :=
  (h.gather verbose p).resolve_right fun hend => by rw [hp] at hend; exact Bool.false_ne_true hend.1

theorem skipBlank (h : Capped t u) (verbose : Bool) :
    Capped (Reader.skipBlank verbose t) (Reader.skipBlank verbose u) :=
  (h.gather_of_not verbose rfl).2

end Capped

/-! ### Lengths -/

theorem length_gatherVerbose_le (p : Char → Bool) (comment : Bool) (t : Text) :
    (gatherVerbose p comment t).2.length ≤ t.length := by
  induction t generalizing comment with
  | nil => cases comment <;> exact Nat.le_refl _
  | cons c t ih =>
    have hstep (comment : Bool) := Nat.le_succ_of_le (ih comment)
    cases comment with
    | true => exact hstep (c != '\n')
    | false =>
      rw [gatherVerbose]
      split
      · exact hstep false
      · split
        · exact hstep true
        · split
          · exact hstep false
          · exact Nat.le_refl _

theorem length_gather_le (verbose : Bool) (p : Char → Bool) (t : Text) :
    (gather verbose p t).2.length ≤ t.length := by
  cases verbose with
  | true => exact length_gatherVerbose_le p false t
  | false => exact (List.dropWhile_suffix p).length_le

theorem length_skipBlank_le (verbose : Bool) (t : Text) :
    (skipBlank verbose t).length ≤ t.length :=
  length_gather_le verbose _ t

@[simp] theorem skipBlank_nil (verbose : Bool) : skipBlank verbose [] = [] := by
  cases verbose <;> rfl

/-- A character that is no blank and starts no comment stops the skipping. -/
theorem skipBlank_cons {c : Char} (hc : isWhiteSpace c = false) (hmark : c ≠ '#')
    (verbose : Bool) (t : Text) : skipBlank verbose (c :: t) = c :: t := by
  cases verbose with
  | true => simp [skipBlank, gather, gatherVerbose, hc, hmark]
  | false => simp [skipBlank, gather]

theorem skipBlank_closer (verbose : Bool) : skipBlank verbose [')'] = [')'] :=
  skipBlank_cons (by decide) (by decide) verbose []

/-! ### Readings -/

/-- Two readings, one of a text and one of the same text with the parenthesis behind it. If the
first one succeeds so does the second, with a value that `R` relates to its own. If it is refused,
the second one may still succeed where the parenthesis is taken for a part of it; `D` tells what
comes of that. At most `n` characters are left. -/
inductive Kept {α : Type} (R : α → α → Prop) (D : α → Text → Prop) (n : Nat) :
    Except Refusal (α × Text) → Except Refusal (α × Text) → Prop
  | read {a b : α} {t u : Text} (hab : R a b) (h : Capped t u) (hn : t.length ≤ n) :
      Kept R D n (.ok (a, t)) (.ok (b, u))
  | refused {e : Refusal} {y : Except Refusal (α × Text)} (h : ∀ b u, y = .ok (b, u) → D b u) :
      Kept R D n (.error e) y

/-- The parenthesis was the last character taken. -/
def AtEnd {α : Type} (_ : α) (u : Text) : Prop := u = []

/-- The parenthesis is not taken. -/
def Never {α : Type} (_ : α) (_ : Text) : Prop := False

namespace Kept

variable {α β : Type} {R : α → α → Prop} {S : β → β → Prop} {D : α → Text → Prop}
  {E : β → Text → Prop} {n m : Nat} {x y : Except Refusal (α × Text)}

theorem elim (h : Kept R D n x y) :
    (∃ a b t u, x = .ok (a, t) ∧ y = .ok (b, u) ∧ R a b ∧ Capped t u ∧ t.length ≤ n) ∨
      ∃ e, x = .error e ∧ ∀ b u, y = .ok (b, u) → D b u := by
  cases h with
  | read hab h hn => exact .inl ⟨_, _, _, _, rfl, rfl, hab, h, hn⟩
  | refused h => exact .inr ⟨_, rfl, h⟩

theorem refuse (fault : Fault) (span : Span) (h : ∀ b u, y = .ok (b, u) → D b u) :
    Kept R D n (Regex.refuse fault span) y := refused h

theorem refuse_refuse (fault other : Fault) (span place : Span) :
    Kept R D n (Regex.refuse fault span) (Regex.refuse other place) :=
  refused (by rintro _ _ ⟨⟩)

theorem mono (h : Kept R D n x y) (hnm : n ≤ m) : Kept R D m x y := by
  cases h with
  | read hab h hn => exact read hab h (Nat.le_trans hn hnm)
  | refused h => exact refused h

/-- Reading on keeps what the first part kept. -/
theorem bind {f g : α × Text → Except Refusal (β × Text)} (h : Kept R D n x y)
    (hread : ∀ a b t u, R a b → Capped t u → t.length ≤ n → Kept S E m (f (a, t)) (g (b, u)))
    (hdoom : ∀ b u, D b u → ∀ b' u', g (b, u) = .ok (b', u') → E b' u') :
    Kept S E m (x >>= f) (y >>= g) := by
  cases h with
  | read hab h hn => exact hread _ _ _ _ hab h hn
  | refused h =>
    refine refused fun b' u' hy => ?_
    cases y with
    | error e => cases hy
    | ok bu => exact hdoom bu.1 bu.2 (h _ _ rfl) b' u' hy

/-- A value that both have, or neither has, comes first. -/
theorem bind_value {γ : Type} {a b : Except Refusal γ} {f g : γ → Except Refusal (α × Text)}
    (hab : b.toOption = a.toOption) (h : ∀ c, Kept R D n (f c) (g c)) :
    Kept R D n (a >>= f) (b >>= g) := by
  cases a with
  | error e =>
    cases b with
    | error e' => exact refused (by rintro _ _ ⟨⟩)
    | ok c => cases hab
  | ok c =>
    cases b with
    | error e' => cases hab
    | ok c' =>
      obtain rfl : c' = c := Option.some.inj hab
      exact h c'

end Kept

end TextParser.Regex.Reader
