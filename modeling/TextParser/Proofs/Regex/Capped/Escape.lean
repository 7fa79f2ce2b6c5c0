import TextParser.Proofs.Regex.Capped.Text
import TextParser.Regex.Reader.Escape

/-!
Escapes with a closing parenthesis behind the text.

    \            refused         \)       the parenthesis itself
    \p           refused         \p)      a property called `)`
    \x4          refused         \x4)     refused, for it is no digit
    \b{          refused         \b{)     a word boundary, and `{)` after it

Where the text breaks off an escape, the parenthesis may be taken for the end of it. Nothing is
left of the text then, or next to nothing: a brace that opens no count.
-/

namespace TextParser.Regex.Reader

open Unicode (isWhiteSpace)

variable {t u start start' : Text} {verbose : Bool}

/-! ### Code points -/

theorem kept_hexDigits (h : Capped t u) (n : Nat) :
    Kept Eq Never t.length (hexDigits verbose n t) (hexDigits verbose n u) := by
  induction n generalizing t u with
  | zero => exact .read rfl h (Nat.le_refl _)
  | succ n ih =>
    cases h with
    | hidden => exact .refuse_refuse ..
    | closer => exact .refuse_refuse ..
    | @cons c t u h =>
      rw [hexDigits, hexDigits]
      split
      · refine (ih (h.skipBlank verbose)).bind ?_ (by rintro _ _ ⟨⟩)
        rintro digits _ left right rfl hleft hn
        exact .read rfl hleft (Nat.le_trans hn (Nat.le_succ_of_le (length_skipBlank_le verbose t)))
      · exact .refuse_refuse ..

theorem kept_readHexFixed (h : Capped t u) (n : Nat) :
    Kept Eq Never t.length (readHexFixed verbose n t) (readHexFixed verbose n u) := by
  refine (kept_hexDigits h n).bind ?_ (by rintro _ _ ⟨⟩)
  rintro digits _ left right rfl hleft hn
  cases hc : scalar? (hexNumber digits) with
  | some c => simp only [hc]; exact .read rfl hleft hn
  | none => simp only [hc]; exact .refuse_refuse ..

/-- The rest of a code point between braces, behind its digits. -/
def readHexEnd (verbose : Bool) (brace digits left : Text) : Except Refusal (Literal × Text) :=
  match left with
  | [] => refuse .escapeUnfinished (.between brace [])
  | '}' :: after =>
    let next := skipBlank verbose after
    if digits = [] then refuse .hexEmpty (.between brace next)
    else match scalar? (hexNumber digits) with
      | some c => .ok (⟨c, false⟩, next)
      | none => refuse .hexInvalid (.between (brace.drop 1) left)
  | _ => refuse .hexDigitInvalid (.one left)

theorem readHexBraced_eq (brace : Text) :
    readHexBraced verbose brace =
      readHexEnd verbose brace (gather verbose isHexDigit (brace.drop 1)).1
        (gather verbose isHexDigit (brace.drop 1)).2 := rfl

theorem readHexEnd_of_ne {digits : Text} {c : Char} (hc : c ≠ '}') :
    readHexEnd verbose start digits (c :: t) = refuse .hexDigitInvalid (.one (c :: t)) := by
  unfold readHexEnd
  split
  · contradiction
  · exact absurd (List.cons.inj ‹_›).1 hc
  · rfl

theorem kept_readHexEnd (h : Capped t u) (digits : Text) {n : Nat} (hn : t.length ≤ n) :
    Kept Eq Never n (readHexEnd verbose start digits t) (readHexEnd verbose start' digits u) := by
  cases h with
  | hidden => exact .refuse_refuse ..
  | closer => exact .refuse_refuse ..
  | @cons c t u h =>
    by_cases hc : c = '}'
    · subst hc
      simp only [readHexEnd]
      split
      · exact .refuse_refuse ..
      · cases scalar? (hexNumber digits) with
        | some c =>
          exact .read rfl (h.skipBlank verbose)
            (Nat.le_trans (length_skipBlank_le verbose t) (Nat.le_of_succ_le hn))
        | none => exact .refuse_refuse ..
    · rw [readHexEnd_of_ne hc, readHexEnd_of_ne hc]
      exact .refuse_refuse ..

theorem kept_readHexBraced (h : Capped t u) (c : Char) :
    Kept Eq Never t.length (readHexBraced verbose (c :: t)) (readHexBraced verbose (c :: u)) := by
  obtain ⟨hdigits, hleft⟩ := h.gather_of_not (p := isHexDigit) verbose (by decide)
  rw [readHexBraced_eq, readHexBraced_eq, List.drop_one, List.drop_one, List.tail_cons,
    List.tail_cons, hdigits]
  exact kept_readHexEnd hleft _ (length_gather_le verbose isHexDigit t)

/-- What follows the letter of a code point, blanks skipped. -/
def readHexNext (verbose : Bool) (digits : Nat) (next : Text) : Except Refusal (Literal × Text) :=
  match next with
  | [] => refuse .escapeUnfinished (.point [])
  | '{' :: more => readHexBraced verbose ('{' :: more)
  | next => readHexFixed verbose digits next

theorem readHexNext_of_ne {n : Nat} {c : Char} (hc : c ≠ '{') :
    readHexNext verbose n (c :: t) = readHexFixed verbose n (c :: t) := by
  unfold readHexNext
  split
  · contradiction
  · exact absurd (List.cons.inj ‹_›).1 hc
  · rfl

/-- A digit has to follow at least. -/
theorem kept_readHex (h : Capped t u) (n : Nat) :
    Kept Eq Never t.length (readHex verbose (n + 1) t) (readHex verbose (n + 1) u) := by
  have hlength := length_skipBlank_le verbose t
  show Kept Eq Never t.length (readHexNext verbose (n + 1) (skipBlank verbose t))
    (readHexNext verbose (n + 1) (skipBlank verbose u))
  rcases (h.skipBlank verbose).split with ⟨ht, hu⟩ | ⟨ht, hu⟩ | ⟨c, a, b, ht, hu, hab⟩
  · rw [ht, hu]
    exact .refuse_refuse ..
  · rw [ht, hu]
    exact .refuse _ _ (by rintro _ _ ⟨⟩)
  · rw [ht] at hlength
    rw [ht, hu]
    by_cases hc : c = '{'
    · subst hc
      exact (kept_readHexBraced hab '{').mono (Nat.le_of_succ_le hlength)
    · rw [readHexNext_of_ne hc, readHexNext_of_ne hc]
      exact (kept_readHexFixed (hab.cons c) (n + 1)).mono hlength

/-! ### Properties -/

/-- The rest of a property between braces, behind what they hold. -/
def readPropertyEnd (negated : Bool) (inside left : Text) : Except Refusal (Atom × Text) :=
  match left with
  | [] => refuse .escapeUnfinished (.point [])
  | _ :: next =>
    .ok (.property (propertyQuery inside) negated, next)

/-- What follows the letter of a property, blanks skipped. -/
def readPropertyNext (verbose negated : Bool) (next : Text) : Except Refusal (Atom × Text) :=
  match next with
  | [] => refuse .escapeUnfinished (.point [])
  | '{' :: more =>
    readPropertyEnd negated (gather verbose (· != '}') more).1 (gather verbose (· != '}') more).2
  | c :: more =>
    if c = '\\' then refuse .propertyInvalid (.one (c :: more))
    else .ok (.property (.named [c]) negated, skipBlank verbose more)

theorem readPropertyNext_of_ne {negated : Bool} {c : Char} (hc : c ≠ '{') :
    readPropertyNext verbose negated (c :: t) =
      if c = '\\' then refuse .propertyInvalid (.one (c :: t))
      else .ok (.property (.named [c]) negated, skipBlank verbose t) := by
  unfold readPropertyNext
  split
  · contradiction
  · exact absurd (List.cons.inj ‹_›).1 hc
  · obtain ⟨rfl, rfl⟩ := List.cons.inj ‹_›
    rfl

theorem readProperty_eq (negated : Bool) (t : Text) :
    readProperty verbose negated t = readPropertyNext verbose negated (skipBlank verbose t) := by
  unfold readProperty
  generalize skipBlank verbose t = next
  split
  · rfl
  · split <;> simp only [readPropertyNext, readPropertyEnd, *]
  · rw [readPropertyNext_of_ne ‹_›]

/-- Between braces the parenthesis is as good as any character, but it closes none. -/
theorem kept_readPropertyBraced (h : Capped t u) (negated : Bool) :
    Kept Eq AtEnd t.length (readPropertyNext verbose negated ('{' :: t))
      (readPropertyNext verbose negated ('{' :: u)) := by
  have hlength := length_gather_le verbose (· != '}') t
  simp only [readPropertyNext]
  rcases h.gather verbose (· != '}') with ⟨hinside, hleft⟩ | ⟨-, ht, hu⟩
  · rw [hinside]
    rcases hleft.split with ⟨ht, hu⟩ | ⟨ht, hu⟩ | ⟨c, a, b, ht, hu, hab⟩
    · rw [ht, hu]
      exact .refuse_refuse ..
    · rw [ht, hu]
      exact .refuse _ _ (by rintro _ _ ⟨⟩; rfl)
    · rw [ht] at hlength
      rw [ht, hu]
      exact .read rfl hab (Nat.le_of_succ_le hlength)
  · rw [ht, hu]
    exact .refuse_refuse ..

/-- The parenthesis may be the one letter of a property. -/
theorem kept_readProperty (h : Capped t u) (negated : Bool) :
    Kept Eq AtEnd t.length (readProperty verbose negated t) (readProperty verbose negated u) := by
  have hlength := length_skipBlank_le verbose t
  rw [readProperty_eq, readProperty_eq]
  rcases (h.skipBlank verbose).split with ⟨ht, hu⟩ | ⟨ht, hu⟩ | ⟨c, a, b, ht, hu, hab⟩
  · rw [ht, hu]
    exact .refuse_refuse ..
  · rw [ht, hu, readPropertyNext_of_ne (by decide), if_neg (by decide), skipBlank_nil]
    exact .refuse _ _ (by rintro _ _ ⟨⟩; rfl)
  · rw [ht] at hlength
    rw [ht, hu]
    by_cases hc : c = '{'
    · subst hc
      exact (kept_readPropertyBraced hab negated).mono (Nat.le_of_succ_le hlength)
    · rw [readPropertyNext_of_ne hc, readPropertyNext_of_ne hc]
      split
      · exact .refuse_refuse ..
      · exact .read rfl (hab.skipBlank verbose)
          (Nat.le_trans (length_skipBlank_le verbose a) (Nat.le_of_succ_le hlength))

/-! ### Word boundaries -/

/-- The rest of a named word boundary, behind its name; `inside` is left in front of that. -/
def readBoundaryEnd (brace inside name left : Text) : Except Refusal (WordSide × Text) :=
  match left with
  | '}' :: next =>
    match boundaryNamed? name with
    | some side => .ok (side, next)
    | none => refuse .boundaryUnknown (.between inside left)
  | _ => refuse .boundaryUnclosed (.between brace left)

/-- What follows the brace of a word boundary, blanks skipped. -/
def readBoundaryNext (verbose : Bool) (start brace inside : Text) :
    Except Refusal (WordSide × Text) :=
  match inside with
  | [] => refuse .boundaryUnfinished (.between start [])
  | c :: more =>
    if isBoundaryChar c then
      readBoundaryEnd brace (c :: more) (gather verbose isBoundaryChar (c :: more)).1
        (gather verbose isBoundaryChar (c :: more)).2
    else .ok (.boundary, brace)

theorem readBoundary_brace (start t : Text) :
    readBoundary verbose start ('{' :: t) =
      readBoundaryNext verbose start ('{' :: t) (skipBlank verbose t) := by
  simp only [readBoundary]
  cases skipBlank verbose t <;> rfl

theorem readBoundary_of_ne {c : Char} (hc : c ≠ '{') (start t : Text) :
    readBoundary verbose start (c :: t) = .ok (.boundary, c :: t) := by
  unfold readBoundary
  split
  · exact absurd (List.cons.inj ‹_›).1 hc
  · rfl

theorem readBoundaryEnd_of_ne {brace inside name : Text} {c : Char} (hc : c ≠ '}') (t : Text) :
    readBoundaryEnd brace inside name (c :: t) =
      refuse .boundaryUnclosed (.between brace (c :: t)) := by
  unfold readBoundaryEnd
  split
  · exact absurd (List.cons.inj ‹_›).1 hc
  · rfl

theorem kept_readBoundaryEnd (h : Capped t u) (brace inside brace' inside' name : Text) {n : Nat}
    (hn : t.length ≤ n) {D : WordSide → Text → Prop} :
    Kept Eq D n (readBoundaryEnd brace inside name t) (readBoundaryEnd brace' inside' name u) := by
  cases h with
  | hidden => exact .refuse_refuse ..
  | closer => exact .refuse_refuse ..
  | @cons c t u h =>
    by_cases hc : c = '}'
    · subst hc
      simp only [readBoundaryEnd]
      cases boundaryNamed? name with
      | some side => exact .read rfl h (Nat.le_of_succ_le hn)
      | none => exact .refuse_refuse ..
    · rw [readBoundaryEnd_of_ne hc, readBoundaryEnd_of_ne hc]
      exact .refuse_refuse ..

/-- A word boundary, and behind it a brace with nothing but the parenthesis in it. -/
def LeftBrace (verbose : Bool) (side : WordSide) (u : Text) : Prop :=
  side = .boundary ∧ ∃ more, u = '{' :: more ∧ skipBlank verbose more = [')']

/-- A brace that the text breaks off is the opening of a name; with the parenthesis behind it is
none, and left to be a count. -/
theorem kept_readBoundary (h : Capped t u) :
    Kept Eq (LeftBrace verbose) t.length (readBoundary verbose start t)
      (readBoundary verbose start' u) := by
  cases h with
  | hidden => exact .read rfl .hidden (Nat.le_refl _)
  | closer => exact .read rfl .closer (Nat.le_refl _)
  | @cons c t u h =>
    by_cases hc : c = '{'
    · subst hc
      have hlength := length_skipBlank_le verbose t
      rw [readBoundary_brace, readBoundary_brace]
      rcases (h.skipBlank verbose).split with ⟨ht, hu⟩ | ⟨ht, hu⟩ | ⟨c, a, b, ht, hu, hab⟩
      · rw [ht, hu]
        exact .refuse_refuse ..
      · rw [ht, hu]
        exact .refuse _ _ (by rintro _ _ ⟨⟩; exact ⟨rfl, u, rfl, hu⟩)
      · rw [ht] at hlength
        rw [ht, hu]
        simp only [readBoundaryNext]
        split
        · obtain ⟨hname, hleft⟩ :=
            (hab.cons c).gather_of_not (p := isBoundaryChar) verbose (by decide)
          rw [hname]
          exact kept_readBoundaryEnd hleft _ _ _ _ _
            (Nat.le_trans (length_gather_le ..) (Nat.le_succ_of_le hlength))
        · exact .read rfl (h.cons '{') (Nat.le_refl _)
    · rw [readBoundary_of_ne hc, readBoundary_of_ne hc]
      exact .read rfl (h.cons c) (Nat.le_refl _)

/-! ### All escapes -/

/-- What may come of an escape that took the parenthesis: nothing is left, or a brace is that holds
no count. -/
def EscapeEnd (verbose : Bool) (e : Escape) (u : Text) : Prop :=
  u = [] ∨ e = .word .boundary ∧ ∃ more, u = '{' :: more ∧ skipBlank verbose more = [')']

theorem kept_hexEscape (h : Capped t u) (n : Nat) :
    Kept Eq (EscapeEnd verbose) t.length
      (do let (l, left) ← readHex verbose (n + 1) t; return (.atom (.literal l), left))
      (do let (l, left) ← readHex verbose (n + 1) u; return (.atom (.literal l), left)) := by
  refine (kept_readHex h n).bind ?_ (by rintro _ _ ⟨⟩)
  rintro l _ left right rfl hleft hn
  exact .read rfl hleft hn

theorem kept_propertyEscape (h : Capped t u) (negated : Bool) :
    Kept Eq (EscapeEnd verbose) t.length
      (do let (a, left) ← readProperty verbose negated t; return (.atom a, left))
      (do let (a, left) ← readProperty verbose negated u; return (.atom a, left)) := by
  refine (kept_readProperty h negated).bind ?_ ?_
  · rintro a _ left right rfl hleft hn
    exact .read rfl hleft hn
  · rintro a right hright _ _ ⟨⟩
    exact .inl hright

theorem kept_otherEscape (h : Capped t u) (b c : Char) :
    Kept Eq (EscapeEnd verbose) t.length
      (if c.isDigit then refuse .backreference (.between (b :: c :: t) t)
        else match escaped? c with
          | some e => .ok (e, t)
          | none => refuse .escapeUnknown (.between (b :: c :: t) t))
      (if c.isDigit then refuse .backreference (.between (b :: c :: u) u)
        else match escaped? c with
          | some e => .ok (e, u)
          | none => refuse .escapeUnknown (.between (b :: c :: u) u)) := by
  split
  · exact .refuse_refuse ..
  · cases escaped? c with
    | some e => exact .read rfl h (Nat.le_refl _)
    | none => exact .refuse_refuse ..

theorem kept_readEscape_cons (h : Capped t u) (b c : Char) :
    Kept Eq (EscapeEnd verbose) t.length (readEscape verbose (b :: c :: t))
      (readEscape verbose (b :: c :: u)) := by
  unfold readEscape
  simp only [List.drop_one, List.tail_cons]
  split
  · exact kept_hexEscape h 1
  · exact kept_hexEscape h 3
  · exact kept_hexEscape h 7
  · exact kept_propertyEscape h false
  · exact kept_propertyEscape h true
  · refine (kept_readBoundary h).bind ?_ ?_
    · rintro side _ left right rfl hleft hn
      exact .read rfl hleft hn
    · rintro side right ⟨rfl, hright⟩ _ _ ⟨⟩
      exact .inr ⟨rfl, hright⟩
  · exact kept_otherEscape h b c

/-- An escape is read alike, and where the text breaks it off the parenthesis may end it. -/
theorem kept_readEscape (h : Capped t u) (b : Char) :
    Kept Eq (EscapeEnd verbose) t.length (readEscape verbose (b :: t))
      (readEscape verbose (b :: u)) := by
  cases h with
  | hidden => exact .refuse_refuse ..
  | closer =>
    refine .refuse _ _ fun e u hu => .inl ?_
    have hparen : readEscape verbose [b, ')'] = .ok (.atom (.literal ⟨')', false⟩), []) := rfl
    rw [hparen] at hu
    cases hu
    rfl
  | cons c h => exact (kept_readEscape_cons h b c).mono (Nat.le_succ _)

end TextParser.Regex.Reader
