import Mathlib.Data.List.TakeWhile
import TextParser.Proofs.Regex.Capped.Parts

/-!
Parts of an expression with more text behind them.

    text        [^a-z]      \pL        read by itself
    text        [^a-z]+)    \pL*)      read with the repetition of it

What is read by itself, and is no group, is read the same with more text behind it, and that text
is left. Blanks count here; where they do not, a comment may take the text in.
-/

namespace TextParser.Regex.Reader

/-- Whether `more` holds no character that could go on with what the text in front of it begins:
no brace, no colon and no bracket. -/
structure Apart (more : Text) : Prop where
  brace : '{' ∉ more
  colon : ':' ∉ more
  bracket : ']' ∉ more

/-- Two readings, the second one of a text with `more` behind it. If the first one succeeds so does
the second, with a value that `R` relates to its own, and leaves `more` behind what the first one
leaves. -/
inductive Continues {α : Type} (R : α → α → Prop) (more : Text) :
    Except Refusal (α × Text) → Except Refusal (α × Text) → Prop
  | read {a b : α} {t : Text} (hab : R a b) : Continues R more (.ok (a, t)) (.ok (b, t ++ more))
  | refused {e : Refusal} {y : Except Refusal (α × Text)} : Continues R more (.error e) y

variable {more t start start' : Text}

namespace Continues

variable {α β : Type} {R : α → α → Prop} {S : β → β → Prop} {x y : Except Refusal (α × Text)}

theorem refuse (fault : Fault) (span : Span) : Continues R more (Regex.refuse fault span) y :=
  refused

theorem of_ok {a : α} (h : Continues R more (.ok (a, t)) y) :
    ∃ b, y = .ok (b, t ++ more) ∧ R a b := by
  cases h with
  | read hab => exact ⟨_, rfl, hab⟩

/-- Reading on continues what the first part did. -/
theorem bind {f g : α × Text → Except Refusal (β × Text)} (h : Continues R more x y)
    (hfg : ∀ a b left, R a b → Continues S more (f (a, left)) (g (b, left ++ more))) :
    Continues S more (x >>= f) (y >>= g) := by
  cases h with
  | read hab => exact hfg _ _ _ hab
  | refused => exact refused

theorem map (h : Continues Eq more x y) (f : α → β) :
    Continues Eq more (x >>= fun r => pure (f r.1, r.2)) (y >>= fun r => pure (f r.1, r.2)) := by
  refine h.bind ?_
  rintro a _ left rfl
  exact read rfl

end Continues

/-! ### Gathering -/

@[simp] theorem skipBlank_false (t : Text) : skipBlank false t = t := by
  cases t <;> rfl

/-- What stops at a character of the text stops there with more behind it as well. -/
theorem gather_append {p : Char → Bool} {c : Char} {left : Text}
    (h : (gather false p t).2 = c :: left) (more : Text) :
    gather false p (t ++ more) = ((gather false p t).1, c :: (left ++ more)) := by
  have hdrop : t.dropWhile p = c :: left := h
  have htake : (t.takeWhile p).length ≠ t.length := by
    intro hlength
    have hsplit := congrArg List.length (List.takeWhile_append_dropWhile (p := p) (l := t))
    rw [List.length_append, hdrop, List.length_cons] at hsplit
    omega
  show ((t ++ more).takeWhile p, (t ++ more).dropWhile p) = (t.takeWhile p, c :: (left ++ more))
  rw [List.takeWhile_append, if_neg htake, List.dropWhile_append, hdrop]
  rfl

/-! ### Code points -/

theorem continues_hexDigits (n : Nat) :
    Continues Eq more (hexDigits false n t) (hexDigits false n (t ++ more)) := by
  induction n generalizing t with
  | zero => exact .read rfl
  | succ n ih =>
    cases t with
    | nil => exact .refuse ..
    | cons c t =>
      rw [List.cons_append, hexDigits, hexDigits, skipBlank_false, skipBlank_false]
      split
      · refine ih.bind ?_
        rintro digits _ left rfl
        exact .read rfl
      · exact .refuse ..

theorem continues_readHexFixed (n : Nat) :
    Continues Eq more (readHexFixed false n t) (readHexFixed false n (t ++ more)) := by
  refine (continues_hexDigits n).bind ?_
  rintro digits _ left rfl
  cases hc : scalar? (hexNumber digits) with
  | some c => simp only [hc]; exact .read rfl
  | none => simp only [hc]; exact .refuse ..

theorem continues_readHexEnd (digits : Text) :
    Continues Eq more (readHexEnd false start digits t)
      (readHexEnd false start' digits (t ++ more)) := by
  cases t with
  | nil => exact .refuse ..
  | cons c t =>
    rw [List.cons_append]
    by_cases hc : c = '}'
    · subst hc
      simp only [readHexEnd, skipBlank_false]
      split
      · exact .refuse ..
      · cases scalar? (hexNumber digits) with
        | some c => exact .read rfl
        | none => exact .refuse ..
    · rw [readHexEnd_of_ne hc]
      exact .refuse ..

theorem continues_readHexBraced (c : Char) :
    Continues Eq more (readHexBraced false (c :: t)) (readHexBraced false (c :: (t ++ more))) := by
  rw [readHexBraced_eq, readHexBraced_eq, List.drop_one, List.drop_one, List.tail_cons,
    List.tail_cons]
  cases hleft : (gather false isHexDigit t).2 with
  | nil => exact .refuse ..
  | cons d left =>
    rw [gather_append hleft more]
    exact continues_readHexEnd _

theorem continues_readHex (n : Nat) :
    Continues Eq more (readHex false n t) (readHex false n (t ++ more)) := by
  show Continues Eq more (readHexNext false n (skipBlank false t))
    (readHexNext false n (skipBlank false (t ++ more)))
  rw [skipBlank_false, skipBlank_false]
  cases t with
  | nil => exact .refuse ..
  | cons c t =>
    rw [List.cons_append]
    by_cases hc : c = '{'
    · subst hc
      exact continues_readHexBraced '{'
    · rw [readHexNext_of_ne hc, readHexNext_of_ne hc]
      exact continues_readHexFixed n (t := c :: t)

/-! ### Other escapes -/

theorem continues_readProperty (negated : Bool) :
    Continues Eq more (readProperty false negated t) (readProperty false negated (t ++ more)) := by
  rw [readProperty_eq, readProperty_eq, skipBlank_false, skipBlank_false]
  cases t with
  | nil => exact .refuse ..
  | cons c t =>
    rw [List.cons_append]
    by_cases hc : c = '{'
    · subst hc
      simp only [readPropertyNext]
      cases hleft : (gather false (· != '}') t).2 with
      | nil => exact .refuse ..
      | cons d left =>
        rw [gather_append hleft more]
        exact .read rfl
    · rw [readPropertyNext_of_ne hc, readPropertyNext_of_ne hc, skipBlank_false, skipBlank_false]
      split
      · exact .refuse ..
      · exact .read rfl

theorem continues_readBoundaryEnd (brace inside brace' inside' name : Text) :
    Continues Eq more (readBoundaryEnd brace inside name t)
      (readBoundaryEnd brace' inside' name (t ++ more)) := by
  cases t with
  | nil => exact .refuse ..
  | cons c t =>
    rw [List.cons_append]
    by_cases hc : c = '}'
    · subst hc
      simp only [readBoundaryEnd]
      cases boundaryNamed? name with
      | some side => exact .read rfl
      | none => exact .refuse ..
    · rw [readBoundaryEnd_of_ne hc]
      exact .refuse ..

/-- A brace behind the text would open the name of a boundary. -/
theorem continues_readBoundary (hmore : Apart more) :
    Continues Eq more (readBoundary false start t) (readBoundary false start' (t ++ more)) := by
  cases t with
  | nil =>
    cases more with
    | nil => exact .read rfl
    | cons d more =>
      have hd : d ≠ '{' := fun hd => hmore.brace (hd ▸ List.mem_cons_self)
      rw [List.nil_append, readBoundary_of_ne hd]
      exact .read (t := []) rfl
  | cons c t =>
    rw [List.cons_append]
    by_cases hc : c = '{'
    · subst hc
      rw [readBoundary_brace, readBoundary_brace, skipBlank_false, skipBlank_false]
      cases t with
      | nil => exact .refuse ..
      | cons c t =>
        simp only [List.cons_append, readBoundaryNext]
        split
        · cases hleft : (gather false isBoundaryChar (c :: t)).2 with
          | nil => exact .refuse ..
          | cons d left =>
            rw [← List.cons_append, gather_append hleft more]
            exact continues_readBoundaryEnd ..
        · exact .read (t := '{' :: c :: t) rfl
    · rw [readBoundary_of_ne hc, readBoundary_of_ne hc]
      exact .read (t := c :: t) rfl

/-- An escape is read alike. -/
theorem continues_readEscape (hmore : Apart more) (b : Char) :
    Continues Eq more (readEscape false (b :: t)) (readEscape false (b :: (t ++ more))) := by
  cases t with
  | nil => exact .refuse ..
  | cons c t =>
    rw [List.cons_append]
    unfold readEscape
    simp only [List.drop_one, List.tail_cons]
    split
    · exact (continues_readHex 2).map fun l => Escape.atom (.literal l)
    · exact (continues_readHex 4).map fun l => Escape.atom (.literal l)
    · exact (continues_readHex 8).map fun l => Escape.atom (.literal l)
    · exact (continues_readProperty false).map Escape.atom
    · exact (continues_readProperty true).map Escape.atom
    · exact (continues_readBoundary hmore).map Escape.word
    · split
      · exact .refuse ..
      · cases escaped? c with
        | some e => exact .read rfl
        | none => exact .refuse ..

/-! ### The opening of a class -/

theorem continues_readLead (ht : t ≠ []) (negated : Bool) :
    Continues SameOpenClass more (readLead false start negated t)
      (readLead false start' negated (t ++ more)) := by
  rcases hg : gather false (· == '-') t with ⟨hyphens, left⟩
  cases left with
  | nil =>
    -- hyphens and nothing behind them
    have hhyphens : hyphens ≠ [] := by
      rintro rfl
      have hsplit := List.takeWhile_append_dropWhile (p := (· == '-')) (l := t)
      rw [show t.takeWhile (· == '-') = [] from congrArg Prod.fst hg,
        show t.dropWhile (· == '-') = [] from congrArg Prod.snd hg] at hsplit
      exact ht hsplit.symm
    obtain ⟨d, hyphens, rfl⟩ := List.exists_cons_of_ne_nil hhyphens
    simp only [readLead, hg]
    exact .refuse ..
  | cons c left =>
    have hg' := gather_append (congrArg Prod.snd hg) more
    rw [hg] at hg'
    cases hyphens with
    | nil =>
      by_cases hc : c = ']'
      · subst hc
        simp only [readLead, hg, hg', skipBlank_false]
        cases left with
        | nil => exact .refuse ..
        | cons d left => exact .read (t := d :: left) ⟨rfl, rfl, rfl⟩
      · rw [readLead_of_ne hg hc, readLead_of_ne hg' hc]
        exact .read (t := c :: left) ⟨rfl, rfl, rfl⟩
    | cons d hyphens =>
      simp only [readLead, hg, hg']
      exact .read (t := c :: left) ⟨rfl, rfl, rfl⟩

theorem continues_openClass (b : Char) :
    Continues SameOpenClass more (openClass false (b :: t))
      (openClass false (b :: (t ++ more))) := by
  rw [openClass_eq, openClass_eq, List.drop_one, List.drop_one, List.tail_cons, List.tail_cons,
    skipBlank_false, skipBlank_false]
  cases t with
  | nil => exact .refuse ..
  | cons c t =>
    rw [List.cons_append]
    by_cases hc : c = '^'
    · subst hc
      simp only [openNext, skipBlank_false]
      cases t with
      | nil => exact .refuse ..
      | cons c t => exact continues_readLead (List.cons_ne_nil c t) true
    · rw [openNext_of_ne hc, openNext_of_ne hc]
      exact continues_readLead (List.cons_ne_nil c t) false

/-! ### Items of a class -/

/-- Two readings of a named ASCII class, neither of which finds one, or both of which do; `more` is
left behind what the first one leaves. -/
inductive ContinuesAscii (more : Text) :
    Option (ClassExpr × Text) → Option (ClassExpr × Text) → Prop
  | none : ContinuesAscii more none none
  | some {e e' : ClassExpr} {t : Text} (he : SameClass e e') :
      ContinuesAscii more (some (e, t)) (some (e', t ++ more))

theorem continuesAscii_asciiEnd (hmore : Apart more) (name : Text) (negated : Bool) :
    ContinuesAscii more (asciiEnd start name negated t)
      (asciiEnd start' name negated (t ++ more)) := by
  by_cases ht : ∃ next, t = ':' :: ']' :: next
  · obtain ⟨next, rfl⟩ := ht
    simp only [asciiEnd, List.cons_append]
    cases asciiNamed? name with
    | none => exact .none
    | some c => exact .some rfl
  · have hnot (next : Text) : t ++ more ≠ ':' :: ']' :: next := by
      intro h
      cases t with
      | nil => exact hmore.colon ((show more = _ from h) ▸ List.mem_cons_self)
      | cons c t =>
        obtain ⟨rfl, hnext⟩ := List.cons.inj h
        cases t with
        | nil => exact hmore.bracket ((show more = _ from hnext) ▸ List.mem_cons_self)
        | cons d t =>
          obtain ⟨rfl, -⟩ := List.cons.inj hnext
          exact ht ⟨t, rfl⟩
    rw [asciiEnd_of_ne fun next h => ht ⟨next, h⟩, asciiEnd_of_ne hnot]
    exact .none

/-- A name that no colon ends is none. -/
theorem asciiInside_of_not_mem (h : ':' ∉ t) (negated : Bool) :
    asciiInside start negated t = none := by
  have hall : t.dropWhile (· != ':') = [] :=
    List.dropWhile_eq_nil_iff.2 fun c hc => bne_iff_ne.2 fun hcolon => h (hcolon ▸ hc)
  rw [asciiInside, hall]
  rfl

theorem continuesAscii_asciiInside (hmore : Apart more) (negated : Bool) :
    ContinuesAscii more (asciiInside start negated t)
      (asciiInside start' negated (t ++ more)) := by
  cases hleft : t.dropWhile (· != ':') with
  | nil =>
    have ht : ':' ∉ t := fun hcolon => by simpa using List.dropWhile_eq_nil_iff.1 hleft _ hcolon
    have hu : ':' ∉ t ++ more := by simp [ht, hmore.colon]
    rw [asciiInside_of_not_mem ht, asciiInside_of_not_mem hu]
    exact .none
  | cons c left =>
    obtain ⟨htake, hdrop⟩ := Prod.mk.inj (gather_append (p := (· != ':')) hleft more)
    rw [asciiInside, asciiInside, hleft, hdrop, htake]
    exact continuesAscii_asciiEnd (t := c :: left) hmore _ negated

theorem continuesAscii_readAscii? (hmore : Apart more) :
    ContinuesAscii more (readAscii? ('[' :: t)) (readAscii? ('[' :: (t ++ more))) := by
  by_cases ht : ∃ rest, t = ':' :: rest
  · obtain ⟨rest, rfl⟩ := ht
    rw [List.cons_append, readAscii?_colon, readAscii?_colon]
    cases rest with
    | nil =>
      have hu : ':' ∉ if more.head? == some '^' then more.drop 1 else more := by
        split
        · exact fun h => hmore.colon (List.mem_of_mem_drop h)
        · exact hmore.colon
      rw [List.nil_append, asciiInside_of_not_mem hu]
      exact .none
    | cons c rest =>
      rw [List.cons_append, List.head?_cons, List.head?_cons]
      by_cases hc : (some c == some '^') = true
      · rw [if_pos hc, if_pos hc]
        exact continuesAscii_asciiInside hmore _
      · rw [if_neg hc, if_neg hc]
        exact continuesAscii_asciiInside (t := c :: rest) hmore _
  · have hnot (rest : Text) : t ++ more ≠ ':' :: rest := by
      intro h
      cases t with
      | nil => exact hmore.colon ((show more = _ from h) ▸ List.mem_cons_self)
      | cons c t =>
        obtain ⟨rfl, -⟩ := List.cons.inj h
        exact ht ⟨t, rfl⟩
    rw [readAscii?_of_ne fun rest h => ht ⟨rest, h⟩, readAscii?_of_ne hnot]
    exact .none

theorem continues_readItem (hmore : Apart more) (c : Char) :
    Continues Eq more (readItem false (c :: t)) (readItem false (c :: (t ++ more))) := by
  simp only [readItem]
  split
  · exact continues_readEscape hmore c
  · exact .read rfl

theorem continues_item {x y : Except Refusal ClassExpr} (hxy : SameItem x y) :
    Continues SameClass more (do let item ← x; return (item, t))
      (do let item ← y; return (item, t ++ more)) := by
  cases x with
  | error e => exact .refused
  | ok item =>
    cases y with
    | error e => cases hxy
    | ok item' => exact .read (Option.some.inj hxy)

/-! ### Ranges -/

variable {opening opening' span span' : Span} {first : Escape}

theorem continues_readRangeEnd (hmore : Apart more) :
    Continues SameClass more (readRangeEnd false opening first span t)
      (readRangeEnd false opening' first span' (t ++ more)) := by
  cases t with
  | nil => exact .refuse ..
  | cons c t =>
    refine (continues_readItem hmore c).bind ?_
    rintro last _ left rfl
    exact continues_item (sameItem_rangeBetween ..)

/-- A hyphen at the end of the text is the only one that more text could make another of. -/
theorem startsRange_append {c : Char} (h : t ≠ [] ∨ c ≠ '-') (more : Text) :
    startsRange false (c :: (t ++ more)) = startsRange false (c :: t) := by
  cases t with
  | nil =>
    have hc : (some c == some '-') = false := by simpa using h
    simp only [startsRange, List.head?_cons, hc, Bool.false_and]
  | cons d t => rfl

theorem continues_readRangeRest (hmore : Apart more) :
    Continues SameClass more (readRangeRest false opening first span t)
      (readRangeRest false opening' first span' (t ++ more)) := by
  cases t with
  | nil => exact .refuse ..
  | cons c t =>
    by_cases hend : t ≠ [] ∨ c ≠ '-'
    · simp only [readRangeRest, List.cons_append, startsRange_append hend, List.drop_one,
        List.tail_cons, skipBlank_false]
      split
      · exact continues_readRangeEnd hmore
      · exact continues_item (t := c :: t) (sameItem_itemAlone ..)
    · obtain ⟨rfl, rfl⟩ : t = [] ∧ c = '-' := by simpa using hend
      exact .refuse ..

theorem continues_readRange (hmore : Apart more) (c : Char) :
    Continues SameClass more (readRange false opening (c :: t))
      (readRange false opening' (c :: (t ++ more))) := by
  rw [readRange_eq, readRange_eq]
  refine (continues_readItem hmore c).bind ?_
  rintro first _ left rfl
  simp only [skipBlank_false]
  exact continues_readRangeRest hmore

/-! ### Whole classes -/

/-- An operator takes two characters, which the text has if it goes on. -/
theorem readOperator?_append (c d : Char) (t more : Text) :
    readOperator? (c :: d :: (t ++ more)) =
      (readOperator? (c :: d :: t)).map fun (op, left) => (op, left ++ more) := by
  unfold readOperator?
  split <;> split <;> simp_all

/-- The last character of a text is no item, for the bracket is missing. -/
theorem readRange_singleton (opening : Span) (c : Char) :
    ∃ r, readRange false opening [c] = .error r := by
  rw [readRange_eq, readItem]
  split
  · exact ⟨_, rfl⟩
  · exact ⟨_, rfl⟩

/-- Round by round; with more text behind there is more fuel than needed. -/
theorem continues_readClassBody (hmore : Apart more) {o o' : OpenClass}
    {outer outer' : List OpenClass} (ho : SameOpenClass o o')
    (houter : List.Forall₂ SameOpenClass outer outer') {fuel fuel' : Nat} (hfuel : fuel ≤ fuel') :
    Continues SameExpr more (readClassBody false fuel o outer t)
      (readClassBody false fuel' o' outer' (t ++ more)) := by
  induction fuel generalizing o o' outer outer' t fuel' with
  | zero => exact .refuse ..
  | succ fuel ih =>
    obtain ⟨fuel', rfl⟩ : ∃ k, fuel' = k + 1 := ⟨fuel' - 1, by omega⟩
    have hfuel : fuel ≤ fuel' := Nat.le_of_succ_le_succ hfuel
    cases t with
    | nil =>
      rw [readClassBody_of_nil (skipBlank_nil _)]
      exact .refuse ..
    | cons c t =>
      have ht := skipBlank_false (c :: t)
      have hu := skipBlank_false (c :: (t ++ more))
      rw [List.cons_append]
      by_cases hc : c = ']'
      · subst hc
        rw [readClassBody_of_bracket ht, readClassBody_of_bracket hu]
        cases houter with
        | nil => exact .read (ho.bare_close t (t ++ more))
        | cons hp houter => exact ih (hp.add (ho.close t (t ++ more))) houter hfuel
      by_cases hc' : c = '['
      · subst hc'
        rw [readClassBody_of_nested ht, readClassBody_of_nested hu]
        have hascii := continuesAscii_readAscii? (t := t) hmore
        generalize readAscii? ('[' :: t) = x, readAscii? ('[' :: (t ++ more)) = y at hascii ⊢
        cases hascii with
        | none =>
          refine (continues_openClass '[').bind ?_
          intro inner inner' left hinner
          exact ih hinner (.cons ho houter) hfuel
        | some he => exact ih (ho.add he) houter hfuel
      · rw [readClassBody_of_item ht hc hc', readClassBody_of_item hu hc hc']
        cases t with
        | nil =>
          obtain ⟨r, hr⟩ := readRange_singleton o.opening c
          rw [readOperator?_singleton, hr]
          exact .refused
        | cons d t =>
          rw [List.cons_append, readOperator?_append]
          cases readOperator? (c :: d :: t) with
          | none =>
            refine (continues_readRange (t := d :: t) hmore c).bind ?_
            intro item item' left hitem
            exact ih (ho.add hitem) houter hfuel
          | some found => exact ih (ho.operate found.1) houter hfuel

/-- A class is read alike. -/
theorem continues_readClass (hmore : Apart more) (b : Char) :
    Continues SameExpr more (readClass false (b :: t)) (readClass false (b :: (t ++ more))) := by
  refine (continues_openClass b).bind ?_
  intro o o' left ho
  exact continues_readClassBody hmore ho .nil (by simp)

/-! ### Single parts -/

/-- The part added last, and what is left behind it. -/
theorem add_eq_add {s : State} {e e' : Expr} {left : Text}
    (h : (.ok (s.add e', left) : Except Refusal (State × Text)) = .ok (s.add e, [])) :
    e' = e ∧ left = [] := by
  obtain ⟨hstate, hleft⟩ := Prod.mk.inj (Except.ok.inj h)
  exact ⟨(List.cons.inj (congrArg (·.level.parts) hstate)).1, hleft⟩

/-- A part that stands alone in a text, and is no group, is added alike to what was read before it,
and `more` is left. -/
theorem readPart_append (hmore : Apart more) {c : Char} (hc : c ≠ '(') {e : Expr}
    (h : readPart {} c t = .ok (State.add {} e, [])) {s : State} (hs : s.verbose = false) :
    ∃ e', readPart s c (t ++ more) = .ok (s.add e', more) ∧ SameExpr e e' := by
  unfold readPart at h
  dsimp only at h
  split at h
  · exact absurd rfl hc
  · cases h
  · cases h
  · obtain ⟨⟨inner, left⟩, hclass, hadd⟩ := bind_eq_ok.1 h
    obtain ⟨rfl, rfl⟩ := add_eq_add hadd
    have hcontinues := continues_readClass (t := t) hmore '['
    rw [hclass] at hcontinues
    obtain ⟨e', hclass', hsame⟩ := hcontinues.of_ok
    refine ⟨e', ?_, hsame⟩
    show (readClass s.verbose ('[' :: (t ++ more)) >>= _) = _
    rw [hs, hclass']
    rfl
  · cases h
  · cases h
  · cases h
  · cases h
  · obtain ⟨⟨escape, left⟩, hescape, hadd⟩ := bind_eq_ok.1 h
    obtain ⟨rfl, rfl⟩ := add_eq_add hadd
    have hcontinues := continues_readEscape (t := t) hmore '\\'
    rw [hescape] at hcontinues
    obtain ⟨_, hescape', rfl⟩ := hcontinues.of_ok
    refine ⟨_, ?_, sameExpr_escapePart _ (.between ('\\' :: (t ++ more)) more) escape⟩
    show (readEscape s.verbose ('\\' :: (t ++ more)) >>= _) = _
    rw [hs, hescape']
    rfl
  · obtain ⟨rfl, rfl⟩ := add_eq_add h
    exact ⟨_, rfl, rfl⟩
  · obtain ⟨rfl, rfl⟩ := add_eq_add h
    exact ⟨_, rfl, rfl⟩
  · obtain ⟨rfl, rfl⟩ := add_eq_add h
    exact ⟨_, rfl, rfl⟩
  · obtain ⟨rfl, rfl⟩ := add_eq_add h
    refine ⟨.atom (.literal ⟨c, false⟩) (.one (c :: more)), ?_, rfl⟩
    unfold readPart
    dsimp only
    split <;> first | contradiction | rfl

end TextParser.Regex.Reader
