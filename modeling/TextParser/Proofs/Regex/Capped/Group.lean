import TextParser.Proofs.Regex.Capped.Text
import TextParser.Regex.Reader.Group

/-!
Openings of groups with a closing parenthesis behind the text.

    (?i          refused         (?i)      switches
    (?           refused         (?)       refused, for a switch is missing
    (?<name      refused         (?<name)  refused, for it is no part of a name

Switches that the text breaks off are ended by the parenthesis as they would be by one of their
own, and nothing is left then.
-/

namespace TextParser.Regex.Reader

variable {t u start start' : Text} {verbose : Bool}

/-! ### Lists with places -/

/-- A key is found in a list whatever the places beside the keys. -/
theorem lookup_isSome_congr {α β : Type} [BEq α] {l l' : List (α × β)}
    (h : l.map (·.1) = l'.map (·.1)) (a : α) : (l.lookup a).isSome = (l'.lookup a).isSome := by
  induction l generalizing l' with
  | nil =>
    rw [List.map_nil] at h
    rw [List.map_eq_nil_iff.1 h.symm]
  | cons x l ih =>
    cases l' with
    | nil => cases h
    | cons y l' =>
      obtain ⟨hkey, hl⟩ := List.cons.inj h
      have hkey : x.1 = y.1 := hkey
      rw [List.lookup_cons, List.lookup_cons, ← hkey]
      split
      · rfl
      · exact ih hl

/-! ### Switches -/

/-- Only the parenthesis is left. -/
def AtCloser {α : Type} (_ : α) (u : Text) : Prop := u = [')']

/-- The end of switches, in front of `left`. -/
def endSwitches (seen : List (SwitchMark × Span)) (left : Text) :
    Except Refusal (Switches × Text) :=
  match seen with
  | (.negation, span) :: _ => refuse .negationDangling span
  | _ => .ok (switchesOf true (seen.reverse.map (·.1)), left)

variable {seen seen' : List (SwitchMark × Span)}

theorem kept_endSwitches (hseen : seen.map (·.1) = seen'.map (·.1)) (h : Capped t u)
    {D : Switches → Text → Prop} :
    Kept Eq D t.length (endSwitches seen t) (endSwitches seen' u) := by
  have hmarks : switchesOf true (seen.reverse.map (·.1)) =
      switchesOf true (seen'.reverse.map (·.1)) := by
    rw [List.map_reverse, List.map_reverse, hseen]
  cases seen with
  | nil =>
    rw [List.map_nil] at hseen
    rw [List.map_eq_nil_iff.1 hseen.symm]
    exact .read rfl h (Nat.le_refl _)
  | cons x seen =>
    cases seen' with
    | nil => cases hseen
    | cons y seen' =>
      have hmark : x.1 = y.1 := (List.cons.inj hseen).1
      obtain ⟨m, span⟩ := x
      obtain ⟨m', span'⟩ := y
      obtain rfl : m = m' := hmark
      cases m with
      | negation => exact .refuse_refuse ..
      | flag f => exact .read hmarks h (Nat.le_refl _)

theorem readSwitches_of_end {c : Char} (hc : c = ':' ∨ c = ')') :
    readSwitches seen (c :: t) = endSwitches seen (c :: t) := by
  unfold readSwitches
  rw [if_pos hc]
  rfl

/-- A mark that stands once in both lists, or twice in both. -/
theorem kept_unlessSeen (hseen : seen.map (·.1) = seen'.map (·.1)) (m : SwitchMark) {α : Type}
    {R : α → α → Prop} {D : α → Text → Prop} {n : Nat} {x y : Except Refusal (α × Text)}
    (hxy : Kept R D n x y) (repeated repeated' : Span → Refusal) :
    Kept R D n
      (match seen.lookup m with
        | some earlier => .error (repeated earlier)
        | none => x)
      (match seen'.lookup m with
        | some earlier => .error (repeated' earlier)
        | none => y) := by
  have hfound := lookup_isSome_congr hseen m
  generalize seen.lookup m = a, seen'.lookup m = b at hfound ⊢
  cases a with
  | none =>
    cases b with
    | none => exact hxy
    | some e' => cases hfound
  | some e =>
    cases b with
    | none => cases hfound
    | some e' => exact .refused (by rintro _ _ ⟨⟩)

theorem kept_readSwitches (hseen : seen.map (·.1) = seen'.map (·.1)) (h : Capped t u) :
    Kept Eq AtCloser t.length (readSwitches seen t) (readSwitches seen' u) := by
  induction h generalizing seen seen' with
  | hidden => exact .refuse_refuse ..
  | closer =>
    rw [readSwitches_of_end (.inr rfl)]
    refine .refuse _ _ fun s u hu => ?_
    unfold endSwitches at hu
    split at hu <;> cases hu
    rfl
  | @cons c t u h ih =>
    by_cases hend : c = ':' ∨ c = ')'
    · rw [readSwitches_of_end hend, readSwitches_of_end hend]
      exact kept_endSwitches hseen (h.cons c)
    have hmark (m : SwitchMark) (span span' : Span) :
        Kept Eq AtCloser (c :: t).length (readSwitches ((m, span) :: seen) t)
          (readSwitches ((m, span') :: seen') u) := by
      have hseen' : ((m, span) :: seen).map (·.1) = ((m, span') :: seen').map (·.1) :=
        congrArg (m :: ·) hseen
      exact (ih hseen').mono (Nat.le_succ _)
    simp only [readSwitches, if_neg hend]
    by_cases hc : c = '-'
    · simp only [if_pos hc]
      exact kept_unlessSeen hseen .negation (hmark ..) _ _
    · simp only [if_neg hc]
      cases Flag.ofChar? c with
      | none => exact .refuse_refuse ..
      | some f => exact kept_unlessSeen hseen (.flag f) (hmark ..) _ _

/-- Switches end in front of a colon or a parenthesis. -/
theorem readSwitches_ne_nil {s : Switches} (h : readSwitches seen t = .ok (s, u)) : u ≠ [] := by
  induction t generalizing seen with
  | nil => cases h
  | cons c t ih =>
    by_cases hend : c = ':' ∨ c = ')'
    · rw [readSwitches_of_end hend] at h
      unfold endSwitches at h
      split at h <;> cases h
      exact List.cons_ne_nil _ _
    · simp only [readSwitches, if_neg hend] at h
      split at h
      · split at h
        · cases h
        · exact ih h
      · split at h
        · cases h
        · split at h
          · cases h
          · exact ih h

/-! ### Names -/

theorem kept_readName (h : Capped t u) (first : Bool) :
    Kept Eq Never t.length (readName first t) (readName first u) := by
  induction h generalizing first with
  | hidden => exact .refuse_refuse ..
  | closer =>
    have hparen : isNameChar first ')' = false := by cases first <;> decide +kernel
    refine .refuse _ _ fun name u hu => ?_
    simp [readName, hparen] at hu
    cases hu
  | @cons c t u h ih =>
    simp only [readName]
    split
    · exact .read rfl (h.cons c) (Nat.le_refl _)
    · split
      · refine (ih false).bind ?_ (by rintro _ _ ⟨⟩)
        rintro name _ left right rfl hleft hn
        exact .read rfl hleft (Nat.le_succ_of_le hn)
      · exact .refuse_refuse ..

/-- What an opening turns out to start, places aside. -/
inductive SameOpening : Opening → Opening → Prop
  | switch (s : Switches) : SameOpening (.switch s) (.switch s)
  | group (s : Switches) : SameOpening (.group s) (.group s)
  | named (name : Text) (span span' : Span) : SameOpening (.named name span) (.named name span')

/-- Only switches may have taken the parenthesis. -/
def SwitchAtEnd (o : Opening) (u : Text) : Prop := u = [] ∧ ∃ s, o = .switch s

theorem kept_readNamed (h : Capped t u) :
    Kept SameOpening SwitchAtEnd t.length (readNamed t) (readNamed u) := by
  refine (kept_readName h true).bind ?_ (by rintro _ _ ⟨⟩)
  rintro name _ left right rfl hleft hn
  by_cases hname : name = []
  · simp only [if_pos hname]
    exact .refuse_refuse ..
  · simp only [if_neg hname]
    exact .read (.named ..) hleft.drop_one
      (Nat.le_trans (List.drop_sublist ..).length_le hn)

/-! ### Openings -/

/-- Two attempts to take a mark off a text, both of them in vain or both of them not. -/
inductive KeptStart (n : Nat) : Option Text → Option Text → Prop
  | none : KeptStart n none none
  | some {t u : Text} (h : Capped t u) (hn : t.length ≤ n) : KeptStart n (some t) (some u)

/-- A mark without a parenthesis is found in both texts or in neither. -/
theorem keptStart_dropStart? (mark : Text) (hmark : ')' ∉ mark) (h : Capped t u) {n : Nat}
    (hn : t.length ≤ n) : KeptStart n (Text.dropStart? mark t) (Text.dropStart? mark u) := by
  induction mark generalizing t u with
  | nil => exact .some h hn
  | cons m mark ih =>
    cases h with
    | hidden => exact .none
    | closer =>
      have hm : m ≠ ')' := fun hm => hmark (hm ▸ List.mem_cons_self)
      simp only [Text.dropStart?, if_neg hm]
      exact .none
    | cons c h =>
      simp only [Text.dropStart?]
      split
      · exact ih (fun hm => hmark (List.mem_cons_of_mem m hm)) h (Nat.le_of_succ_le hn)
      · exact .none

theorem keptStart_findSome? (marks : List Text) (hmarks : ∀ mark ∈ marks, ')' ∉ mark)
    (h : Capped t u) :
    KeptStart t.length (marks.findSome? (Text.dropStart? · t))
      (marks.findSome? (Text.dropStart? · u)) := by
  induction marks with
  | nil => exact .none
  | cons mark marks ih =>
    have hfirst := keptStart_dropStart? mark (hmarks mark List.mem_cons_self) h (Nat.le_refl _)
    have hrest := ih fun m hm => hmarks m (List.mem_cons_of_mem mark hm)
    rw [List.findSome?_cons, List.findSome?_cons]
    generalize Text.dropStart? mark t = a, Text.dropStart? mark u = b at hfirst ⊢
    cases hfirst with
    | none => exact hrest
    | some h hn => exact .some h hn

/-- What is made of the switches `rest` begins with, with `left` behind them. -/
def openingEnd (inside rest : Text) (switches : Switches) (left : Text) :
    Except Refusal (Opening × Text) :=
  match left with
  | ')' :: next =>
    if rest.head? = some ')' then refuse .operandMissing (.point inside)
    else .ok (.switch switches, next)
  | _ => .ok (.group switches, left.drop 1)

theorem openingEnd_of_ne {inside rest : Text} {s : Switches} {c : Char} (hc : c ≠ ')') :
    openingEnd inside rest s (c :: t) = .ok (.group s, t) := by
  unfold openingEnd
  split
  · exact absurd (List.cons.inj ‹_›).1 hc
  · rfl

/-- The opening behind its parenthesis, if it has no name. -/
def openingUnnamed (start inside : Text) : Except Refusal (Opening × Text) :=
  match inside with
  | ['?'] => refuse .groupUnclosed (.one start)
  | '?' :: rest => do
    let (switches, left) ← readSwitches [] rest
    openingEnd inside rest switches left
  | _ => .ok (.group [], inside)

/-- The opening behind its parenthesis and the blanks there. -/
def openingInside (start inside : Text) : Except Refusal (Opening × Text) :=
  match lookArounds.findSome? (Text.dropStart? · inside) with
  | some left => refuse .lookAround (.between start left)
  | none =>
    match nameMarks.findSome? (Text.dropStart? · inside) with
    | some rest => readNamed rest
    | none => openingUnnamed start inside

theorem readOpening_eq (start : Text) :
    readOpening verbose start = openingInside start (skipBlank verbose (start.drop 1)) := by
  rfl

theorem openingUnnamed_of_ne {c : Char} (hc : c ≠ '?') :
    openingUnnamed start (c :: t) = .ok (.group [], c :: t) := by
  unfold openingUnnamed
  split
  · exact absurd (List.cons.inj ‹_›).1 hc
  · exact absurd (List.cons.inj ‹_›).1 hc
  · rfl

theorem kept_openingSwitches (h : Capped t u) (d : Char) (inside inside' : Text) :
    Kept SameOpening SwitchAtEnd (t.length + 1)
      (do let (s, left) ← readSwitches [] (d :: t); openingEnd inside (d :: t) s left)
      (do let (s, left) ← readSwitches [] (d :: u); openingEnd inside' (d :: u) s left) := by
  have hswitches : Kept Eq AtCloser (d :: t).length (readSwitches [] (d :: t))
      (readSwitches [] (d :: u)) := kept_readSwitches rfl (h.cons d)
  rcases hswitches.elim with
    ⟨s, _, left, right, ht, hu, rfl, hleft, hn⟩ | ⟨e, ht, hend⟩
  · rw [ht, hu]
    obtain ⟨c, left, rfl⟩ := List.exists_cons_of_ne_nil (readSwitches_ne_nil ht)
    cases hleft with
    | cons c hleft =>
      show Kept _ _ _ (openingEnd _ _ s _) (openingEnd _ _ s _)
      by_cases hc : c = ')'
      · subst hc
        simp only [openingEnd]
        by_cases hd : (d :: t).head? = some ')'
        · have hd' : (d :: u).head? = some ')' := hd
          rw [if_pos hd, if_pos hd']
          exact .refuse_refuse ..
        · have hd' : ¬ (d :: u).head? = some ')' := hd
          rw [if_neg hd, if_neg hd']
          exact .read (.switch s) hleft (Nat.le_of_succ_le hn)
      · rw [openingEnd_of_ne hc, openingEnd_of_ne hc]
        exact .read (.group s) hleft (Nat.le_of_succ_le hn)
  · rw [ht]
    refine .refused fun o right hok => ?_
    cases hu : readSwitches [] (d :: u) with
    | error e' => rw [hu] at hok; cases hok
    | ok r =>
      obtain ⟨s, left⟩ := r
      obtain rfl := hend s left hu
      rw [hu] at hok
      have hok : openingEnd inside' (d :: u) s [')'] = .ok (o, right) := hok
      simp only [openingEnd] at hok
      split at hok <;> cases hok
      exact ⟨rfl, s, rfl⟩

theorem kept_openingUnnamed (h : Capped t u) :
    Kept SameOpening SwitchAtEnd t.length (openingUnnamed start t)
      (openingUnnamed start' u) := by
  cases h with
  | hidden => exact .read (.group []) .hidden (Nat.le_refl _)
  | closer => exact .read (.group []) .closer (Nat.le_refl _)
  | @cons c t u h =>
    by_cases hc : c = '?'
    · subst hc
      cases h with
      | hidden => exact .refuse_refuse ..
      | closer => exact .refuse _ _ (by rintro _ _ ⟨⟩)
      | cons d h => exact (kept_openingSwitches h d _ _).mono (Nat.le_succ _)
    · rw [openingUnnamed_of_ne hc, openingUnnamed_of_ne hc]
      exact .read (.group []) (h.cons c) (Nat.le_refl _)

theorem kept_openingInside (h : Capped t u) :
    Kept SameOpening SwitchAtEnd t.length (openingInside start t) (openingInside start' u) := by
  have hlook := keptStart_findSome? lookArounds (by decide) h
  have hname := keptStart_findSome? nameMarks (by decide) h
  unfold openingInside
  generalize lookArounds.findSome? (Text.dropStart? · t) = a,
    lookArounds.findSome? (Text.dropStart? · u) = b at hlook ⊢
  cases hlook with
  | some => exact .refuse_refuse ..
  | none =>
    generalize nameMarks.findSome? (Text.dropStart? · t) = a,
      nameMarks.findSome? (Text.dropStart? · u) = b at hname ⊢
    cases hname with
    | none => exact kept_openingUnnamed h
    | some h hn => exact (kept_readNamed h).mono hn

/-- An opening is read alike, and where the text breaks off switches the parenthesis ends them. -/
theorem kept_readOpening (h : Capped t u) (b : Char) :
    Kept SameOpening SwitchAtEnd t.length (readOpening verbose (b :: t))
      (readOpening verbose (b :: u)) := by
  rw [readOpening_eq, readOpening_eq]
  exact (kept_openingInside (h.skipBlank verbose)).mono (length_skipBlank_le verbose t)

end TextParser.Regex.Reader
