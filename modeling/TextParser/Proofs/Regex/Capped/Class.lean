import Mathlib.Data.List.Forall2
import TextParser.Proofs.Regex.Bare
import TextParser.Proofs.Regex.Capped.Escape
import TextParser.Regex.Reader.Class

/-!
Character classes with a closing parenthesis behind the text.

    [a-z]        complete, and the parenthesis stands behind it
    [a-z         refused
    [a-z)        refused as well, for the parenthesis is one more character of the class

A class that the text breaks off takes the parenthesis as it takes any character, and goes on
without a bracket that closes it.
-/

namespace TextParser.Regex.Reader

open Unicode (isWhiteSpace)

variable {t u start start' : Text} {verbose : Bool}

/-! ### Open classes -/

/-- Whether two classes are the same but for places. -/
def SameClass (e e' : ClassExpr) : Prop := e.bare = e'.bare

/-- Whether two open classes are the same but for places. -/
structure SameOpenClass (o o' : OpenClass) : Prop where
  negated : o.negated = o'.negated
  waiting : o.waiting.map (fun w => (w.1, w.2.bare)) = o'.waiting.map fun w => (w.1, w.2.bare)
  items : SameClass o.items o'.items

namespace SameOpenClass

variable {o o' : OpenClass} {e e' : ClassExpr}

theorem add (h : SameOpenClass o o') (he : SameClass e e') :
    SameOpenClass (o.add e) (o'.add e') := by
  refine ⟨h.negated, h.waiting, ?_⟩
  have hitems : o.items.bare = o'.items.bare := h.items
  have hempty : o.items = .empty ↔ o'.items = .empty := by
    rw [← ClassExpr.bare_eq_empty_iff, hitems, ClassExpr.bare_eq_empty_iff]
  simp only [OpenClass.add]
  by_cases ho : o.items = .empty
  · rw [if_pos ho, if_pos (hempty.1 ho)]
    exact he
  · rw [if_neg ho, if_neg fun h => ho (hempty.2 h)]
    rw [SameClass, ClassExpr.bare, ClassExpr.bare, hitems, he]

theorem result (h : SameOpenClass o o') : SameClass o.result o'.result := by
  have hwaiting := h.waiting
  unfold OpenClass.result
  cases ho : o.waiting with
  | none =>
    rw [ho, Option.map_none] at hwaiting
    rw [Option.map_eq_none_iff.1 hwaiting.symm]
    exact h.items
  | some w =>
    rw [ho, Option.map_some] at hwaiting
    obtain ⟨w', ho', hw⟩ := Option.map_eq_some_iff.1 hwaiting.symm
    obtain ⟨hop, hleft⟩ := Prod.mk.inj hw
    rw [ho', SameClass, ClassExpr.bare, ClassExpr.bare, hop, hleft, h.items]

theorem operate (h : SameOpenClass o o') (op : SetOperator) :
    SameOpenClass (o.operate op) (o'.operate op) :=
  ⟨h.negated, congrArg (fun e => some (op, e)) h.result, rfl⟩

/-- The closed class, as an item of the one around it. -/
theorem close (h : SameOpenClass o o') (rest rest' : Text) :
    SameClass (.bracketed o.negated (o.close rest).1 (o.close rest).2)
      (.bracketed o'.negated (o'.close rest').1 (o'.close rest').2) := by
  have hresult : (o.close rest).1.bare = (o'.close rest').1.bare := h.result
  rw [SameClass, ClassExpr.bare, ClassExpr.bare, h.negated, hresult]

theorem bare_close (h : SameOpenClass o o') (rest rest' : Text) :
    Expr.bare (.bracketed o.negated (o.close rest).1 (o.close rest).2) =
      Expr.bare (.bracketed o'.negated (o'.close rest').1 (o'.close rest').2) := by
  have hresult : (o.close rest).1.bare = (o'.close rest').1.bare := h.result
  rw [Expr.bare, Expr.bare, h.negated, hresult]

end SameOpenClass

/-! ### The opening -/

/-- Nothing is left but the parenthesis, or not even that. -/
def NearEnd {α : Type} (_ : α) (u : Text) : Prop := u = [] ∨ u = [')']

/-- Any other character is left to be an item. -/
theorem readLead_of_ne {negated : Bool} {c : Char} {left : Text}
    (h : gather verbose (· == '-') t = ([], c :: left)) (hc : c ≠ ']') :
    readLead verbose start negated t =
      .ok (⟨start.length, .between start (c :: left), negated, none, .empty⟩, c :: left) := by
  unfold readLead
  simp only [h]
  split <;> simp_all

theorem kept_readLead (h : Capped t u) (negated : Bool) :
    Kept SameOpenClass NearEnd t.length (readLead verbose start negated t)
      (readLead verbose start' negated u) := by
  have hlength := length_gather_le verbose (· == '-') t
  have hleft := h.gather_of_not (p := (· == '-')) verbose (by decide)
  rcases hg : gather verbose (· == '-') t with ⟨hyphens, left⟩
  rcases hg' : gather verbose (· == '-') u with ⟨hyphens', left'⟩
  rw [hg] at hlength
  rw [hg, hg'] at hleft
  obtain ⟨rfl, hleft⟩ := hleft
  cases hyphens' with
  | nil =>
    cases hleft with
    | hidden => simp only [readLead, hg, hg']; exact .read ⟨rfl, rfl, rfl⟩ .hidden (Nat.zero_le _)
    | closer => simp only [readLead, hg, hg']; exact .read ⟨rfl, rfl, rfl⟩ .closer (Nat.zero_le _)
    | @cons c a b hab =>
      by_cases hc : c = ']'
      · subst hc
        simp only [readLead, hg, hg']
        have hmore := length_skipBlank_le verbose a
        rcases (hab.skipBlank verbose).split with ⟨ha, hb⟩ | ⟨ha, hb⟩ | ⟨d, a', b', ha, hb, hab'⟩
        · simp only [ha, hb]
          exact .refuse_refuse ..
        · simp only [ha, hb]
          exact .refuse _ _ (by rintro _ _ ⟨⟩; exact .inr rfl)
        · rw [ha] at hmore
          simp only [ha, hb]
          exact .read ⟨rfl, rfl, rfl⟩ (hab'.cons d)
            (Nat.le_trans hmore (Nat.le_of_succ_le hlength))
      · rw [readLead_of_ne hg hc, readLead_of_ne hg' hc]
        exact .read ⟨rfl, rfl, rfl⟩ (hab.cons c) hlength
  | cons d hyphens' =>
    simp only [readLead, hg, hg']
    cases hleft with
    | hidden => exact .refuse_refuse ..
    | closer => exact .refuse _ _ (by rintro _ _ ⟨⟩; exact .inr rfl)
    | @cons c a b hab => exact .read ⟨rfl, rfl, rfl⟩ (hab.cons c) hlength

/-- In a class that has just begun, the parenthesis is left to be an item. -/
theorem readLead_closer (negated : Bool) :
    readLead verbose start negated [')'] =
      .ok (⟨start.length, .between start [')'], negated, none, .empty⟩, [')']) :=
  readLead_of_ne (by cases verbose <;> decide) (by decide)

/-- The opening of a class behind a caret, blanks skipped. -/
def openNegated (verbose : Bool) (start next : Text) : Except Refusal (OpenClass × Text) :=
  match next with
  | [] => refuse .classUnclosed (.between start [])
  | left => readLead verbose start true left

/-- The opening of a class behind its bracket, blanks skipped. -/
def openNext (verbose : Bool) (start next : Text) : Except Refusal (OpenClass × Text) :=
  match next with
  | [] => refuse .classUnclosed (.between start [])
  | '^' :: rest => openNegated verbose start (skipBlank verbose rest)
  | left => readLead verbose start false left

theorem openNext_of_ne {c : Char} (hc : c ≠ '^') :
    openNext verbose start (c :: t) = readLead verbose start false (c :: t) := by
  unfold openNext
  split
  · contradiction
  · exact absurd (List.cons.inj ‹_›).1 hc
  · rfl

theorem openClass_eq (start : Text) :
    openClass verbose start = openNext verbose start (skipBlank verbose (start.drop 1)) := by
  unfold openClass
  generalize skipBlank verbose (start.drop 1) = next
  split
  · rfl
  · rfl
  · rename_i hnil hcaret
    obtain ⟨c, t, rfl⟩ := List.exists_cons_of_ne_nil hnil
    have hc : c ≠ '^' := by
      rintro rfl
      exact hcaret t rfl
    rw [openNext_of_ne hc]

theorem kept_openNegated (h : Capped t u) :
    Kept SameOpenClass NearEnd t.length (openNegated verbose start t)
      (openNegated verbose start' u) := by
  cases h with
  | hidden => exact .refuse_refuse ..
  | closer =>
    refine .refuse _ _ fun o u hu => ?_
    rw [openNegated, readLead_closer] at hu
    · cases hu
      exact .inr rfl
    · exact List.cons_ne_nil _ _
  | cons c h => exact kept_readLead (h.cons c) true

theorem kept_openClass (h : Capped t u) (b : Char) :
    Kept SameOpenClass NearEnd t.length (openClass verbose (b :: t))
      (openClass verbose (b :: u)) := by
  have hlength := length_skipBlank_le verbose t
  rw [openClass_eq, openClass_eq, List.drop_one, List.drop_one, List.tail_cons, List.tail_cons]
  rcases (h.skipBlank verbose).split with ⟨ht, hu⟩ | ⟨ht, hu⟩ | ⟨c, a, a', ht, hu, hab⟩
  · rw [ht, hu]
    exact .refuse_refuse ..
  · rw [ht, hu, openNext_of_ne (by decide), readLead_closer]
    exact .refuse _ _ (by rintro _ _ ⟨⟩; exact .inr rfl)
  · rw [ht] at hlength
    rw [ht, hu]
    by_cases hc : c = '^'
    · subst hc
      exact (kept_openNegated (hab.skipBlank verbose)).mono
        (Nat.le_trans (length_skipBlank_le verbose a) (Nat.le_of_succ_le hlength))
    · rw [openNext_of_ne hc, openNext_of_ne hc]
      exact (kept_readLead (hab.cons c) false).mono hlength

/-! ### Items -/

/-- The end of a named ASCII class, with `left` behind its name. -/
def asciiEnd (start name : Text) (negated : Bool) (left : Text) : Option (ClassExpr × Text) :=
  match left with
  | ':' :: ']' :: next =>
    (asciiNamed? name).map fun c => (.ascii c negated (.between start next), next)
  | _ => none

theorem asciiEnd_of_ne {name left : Text} {negated : Bool}
    (h : ∀ next, left ≠ ':' :: ']' :: next) : asciiEnd start name negated left = none := by
  unfold asciiEnd
  split
  · exact absurd rfl (h _)
  · rfl

/-- A named ASCII class behind its colon. -/
def asciiInside (start : Text) (negated : Bool) (inside : Text) : Option (ClassExpr × Text) :=
  asciiEnd start (inside.takeWhile (· != ':')) negated (inside.dropWhile (· != ':'))

theorem readAscii?_colon (t : Text) :
    readAscii? ('[' :: ':' :: t) =
      asciiInside ('[' :: ':' :: t) (t.head? == some '^')
        (if t.head? == some '^' then t.drop 1 else t) := rfl

theorem readAscii?_of_ne (h : ∀ rest, t ≠ ':' :: rest) : readAscii? ('[' :: t) = none := by
  unfold readAscii?
  split
  · exact absurd (List.cons.inj ‹_›).2 (h _)
  · rfl

/-- Two readings of a named ASCII class, neither of which finds one, or both of which do. -/
inductive KeptAscii (n : Nat) : Option (ClassExpr × Text) → Option (ClassExpr × Text) → Prop
  | none : KeptAscii n none none
  | some {e e' : ClassExpr} {t u : Text} (he : SameClass e e') (h : Capped t u)
      (hn : t.length ≤ n) : KeptAscii n (some (e, t)) (some (e', u))

theorem KeptAscii.mono {n m : Nat} {x y : Option (ClassExpr × Text)} (h : KeptAscii n x y)
    (hnm : n ≤ m) : KeptAscii m x y := by
  cases h with
  | none => exact .none
  | some he h hn => exact .some he h (Nat.le_trans hn hnm)

theorem keptAscii_asciiEnd (h : Capped t u) (name : Text) (negated : Bool) {n : Nat}
    (hn : t.length ≤ n) :
    KeptAscii n (asciiEnd start name negated t) (asciiEnd start' name negated u) := by
  by_cases hu : ∃ next, u = ':' :: ']' :: next
  · obtain ⟨next', rfl⟩ := hu
    obtain ⟨t', rfl, hbracket⟩ := h.of_cons_right (by decide)
    obtain ⟨next, rfl, hnext⟩ := hbracket.of_cons_right (by decide)
    simp only [asciiEnd]
    cases asciiNamed? name with
    | none => exact .none
    | some c => exact .some rfl hnext (Nat.le_of_succ_le (Nat.le_of_succ_le hn))
  · have ht (next : Text) : t ≠ ':' :: ']' :: next := by
      rintro rfl
      cases h with
      | cons _ h => cases h with
        | cons _ h => exact hu ⟨_, rfl⟩
    rw [asciiEnd_of_ne ht, asciiEnd_of_ne fun next hu' => hu ⟨next, hu'⟩]
    exact .none

theorem keptAscii_asciiInside (h : Capped t u) (negated : Bool) :
    KeptAscii t.length (asciiInside start negated t) (asciiInside start' negated u) := by
  have hlength := length_gather_le false (· != ':') t
  rcases h.gather false (· != ':') with ⟨hname, hleft⟩ | ⟨-, ht, hu⟩
  · have hname : u.takeWhile (· != ':') = t.takeWhile (· != ':') := hname
    rw [asciiInside, asciiInside, hname]
    exact keptAscii_asciiEnd hleft _ negated hlength
  · have ht : t.dropWhile (· != ':') = [] := ht
    have hu : u.dropWhile (· != ':') = [] := hu
    rw [asciiInside, asciiInside, ht, hu]
    exact .none

theorem keptAscii_readAscii? (h : Capped t u) :
    KeptAscii t.length (readAscii? ('[' :: t)) (readAscii? ('[' :: u)) := by
  by_cases hu : ∃ rest, u = ':' :: rest
  · obtain ⟨rest', rfl⟩ := hu
    obtain ⟨rest, rfl, hrest⟩ := h.of_cons_right (by decide)
    rw [readAscii?_colon, readAscii?_colon, hrest.head?_beq (by decide)]
    split
    · exact (keptAscii_asciiInside hrest.drop_one _).mono
        (Nat.le_trans (List.drop_sublist ..).length_le (Nat.le_succ _))
    · exact (keptAscii_asciiInside hrest _).mono (Nat.le_succ _)
  · have ht (rest : Text) : t ≠ ':' :: rest := by
      rintro rfl
      cases h with
      | cons _ h => exact hu ⟨_, rfl⟩
    rw [readAscii?_of_ne ht, readAscii?_of_ne fun rest hu' => hu ⟨rest, hu'⟩]
    exact .none

/-! ### Ranges -/

theorem kept_readItem (h : Capped t u) (c : Char) :
    Kept Eq (EscapeEnd verbose) t.length (readItem verbose (c :: t))
      (readItem verbose (c :: u)) := by
  simp only [readItem]
  split
  · exact kept_readEscape h c
  · exact .read rfl h (Nat.le_refl _)

/-- What an item or a range comes to, places aside. -/
def SameItem (x y : Except Refusal ClassExpr) : Prop :=
  x.toOption.map ClassExpr.bare = y.toOption.map ClassExpr.bare

theorem sameItem_itemAlone (e : Escape) (span place : Span) :
    SameItem (itemAlone e span) (itemAlone e place) := by
  cases e <;> rfl

/-- Whether an escape is a character does not depend on its place. -/
theorem rangeEnd_eq (e : Escape) :
    (∃ l, ∀ span, rangeEnd e span = .ok l) ∨
      ∀ span, rangeEnd e span = refuse .classRangeNotLiteral span := by
  cases e with
  | atom a =>
    cases a with
    | literal l => exact .inl ⟨l, fun _ => rfl⟩
    | short | property => exact .inr fun _ => rfl
  | textStart | textEnd | word => exact .inr fun _ => rfl

theorem sameItem_rangeBetween (first last : Escape) (span place span' place' : Span) :
    SameItem (rangeBetween first span last place) (rangeBetween first span' last place') := by
  unfold rangeBetween
  rcases rangeEnd_eq first with ⟨a, hfirst⟩ | hfirst
  · rcases rangeEnd_eq last with ⟨b, hlast⟩ | hlast
    · rw [hfirst, hlast, hfirst, hlast]
      show SameItem (if a.char ≤ b.char then _ else _) (if a.char ≤ b.char then _ else _)
      split <;> rfl
    · rw [hfirst, hlast, hfirst, hlast]
      rfl
  · rw [hfirst, hfirst]
    rfl

/-- An item is kept with the texts behind it. -/
theorem kept_item {x y : Except Refusal ClassExpr} (hxy : SameItem x y) (h : Capped t u) {n : Nat}
    (hn : t.length ≤ n) {D : ClassExpr → Text → Prop} :
    Kept SameClass D n (do let item ← x; return (item, t)) (do let item ← y; return (item, u)) := by
  cases x with
  | error e =>
    cases y with
    | error e' => exact .refused (by rintro _ _ ⟨⟩)
    | ok item' => cases hxy
  | ok item =>
    cases y with
    | error e' => cases hxy
    | ok item' => exact .read (Option.some.inj hxy) h hn

theorem item_eq_ok {x : Except Refusal ClassExpr} {e : ClassExpr}
    (h : (do let item ← x; return (item, t)) = .ok (e, u)) : x = .ok e ∧ u = t := by
  cases x with
  | error e => cases h
  | ok item => cases h; exact ⟨rfl, rfl⟩

/-- Looking past blanks, the parenthesis is found where nothing was. -/
theorem peekPast_go_capped (h : Capped t u) (comment : Bool) :
    peekPast.go comment u = peekPast.go comment t ∨
      peekPast.go comment t = none ∧ peekPast.go comment u = some ')' := by
  induction h generalizing comment with
  | hidden => exact .inl rfl
  | closer => exact .inr ⟨rfl, by cases comment <;> decide⟩
  | cons c h ih =>
    simp only [peekPast.go]
    split
    · exact ih comment
    · split
      · exact ih true
      · exact .inl rfl

/-- Nothing is found past blanks only where there is nothing but blanks. -/
theorem head?_ne_of_go_eq_none {d : Char} (hblank : isWhiteSpace d = false) (hmark : d ≠ '#')
    (h : peekPast.go false t = none) : t.head? ≠ some d := by
  rintro hd
  obtain ⟨t', rfl⟩ := List.head?_eq_some_iff.1 hd
  simp [peekPast.go, hblank, hmark] at h

theorem peekPast_capped (verbose : Bool) (h : Capped t u) (c : Char) {d : Char}
    (hblank : isWhiteSpace d = false) (hmark : d ≠ '#') (hparen : d ≠ ')') :
    (peekPast verbose (c :: u) == some d) = (peekPast verbose (c :: t) == some d) := by
  have hhead := h.head?_beq hparen
  cases verbose with
  | false => exact hhead
  | true =>
    simp only [peekPast, if_true]
    rcases peekPast_go_capped h false with hgo | ⟨ht, hu⟩
    · rw [hgo]
      cases peekPast.go false t with
      | none => exact hhead
      | some e => rfl
    · have hnone := head?_ne_of_go_eq_none hblank hmark ht
      have hu' : (some ')' == some d) = false := by simpa using Ne.symm hparen
      have ht' : (t.head? == some d) = false := by simpa using hnone
      rw [ht, hu, Option.some_or, Option.none_or, hu', ht']

theorem startsRange_capped (h : Capped t u) (c : Char) :
    startsRange verbose (c :: u) = startsRange verbose (c :: t) := by
  have hbracket := peekPast_capped verbose h c (d := ']') (by decide) (by decide) (by decide)
  have hhyphen := peekPast_capped verbose h c (d := '-') (by decide) (by decide) (by decide)
  simp only [startsRange, bne, hbracket, hhyphen, List.head?_cons]

/-- The rest of a range, behind its hyphen and the blanks there. -/
def readRangeEnd (verbose : Bool) (opening : Span) (first : Escape) (firstSpan : Span)
    (next : Text) : Except Refusal (ClassExpr × Text) :=
  match next with
  | [] => refuse .classUnclosed opening
  | next => do
    let (last, after) ← readItem verbose next
    let range ← rangeBetween first firstSpan last (.between next after)
    return (range, after)

/-- What is made of an item with `left` behind it, blanks skipped. -/
def readRangeRest (verbose : Bool) (opening : Span) (first : Escape) (firstSpan : Span)
    (left : Text) : Except Refusal (ClassExpr × Text) :=
  match left with
  | [] => refuse .classUnclosed opening
  | left =>
    if startsRange verbose left then
      readRangeEnd verbose opening first firstSpan (skipBlank verbose (left.drop 1))
    else do
      let item ← itemAlone first firstSpan
      return (item, left)

theorem readRange_eq (opening : Span) (t : Text) :
    readRange verbose opening t = (do
      let (first, after) ← readItem verbose t
      readRangeRest verbose opening first (.between t after) (skipBlank verbose after)) := rfl

variable {opening opening' span span' : Span} {first : Escape}

/-- An item that took the parenthesis ends no range that more could follow. -/
theorem nearEnd_of_rangeEnd {last : Escape} (h : EscapeEnd verbose last u) {place : Span}
    {e : ClassExpr} {left : Text}
    (hok : (do let range ← rangeBetween first span last place; return (range, u)) =
      .ok (e, left)) : NearEnd e left := by
  obtain ⟨hrange, rfl⟩ := item_eq_ok hok
  rcases h with rfl | ⟨rfl, -⟩
  · exact .inl rfl
  · unfold rangeBetween at hrange
    rcases rangeEnd_eq first with ⟨a, hfirst⟩ | hfirst <;> rw [hfirst] at hrange <;> cases hrange

theorem kept_readRangeEnd (h : Capped t u) {n : Nat} (hn : t.length ≤ n) :
    Kept SameClass NearEnd n (readRangeEnd verbose opening first span t)
      (readRangeEnd verbose opening' first span' u) := by
  cases h with
  | hidden => exact .refuse_refuse ..
  | closer =>
    have hend : EscapeEnd verbose (.atom (.literal ⟨')', false⟩)) [] := .inl rfl
    exact .refuse _ _ fun e u hu => nearEnd_of_rangeEnd hend hu
  | @cons c t u h =>
    refine (kept_readItem h c).bind ?_ ?_
    · rintro last _ left right rfl hleft hlength
      exact kept_item (sameItem_rangeBetween ..) hleft
        (Nat.le_trans hlength (Nat.le_of_succ_le hn))
    · rintro last right hright e left hok
      exact nearEnd_of_rangeEnd hright hok

theorem kept_readRangeRest (h : Capped t u) {n : Nat} (hn : t.length ≤ n) :
    Kept SameClass NearEnd n (readRangeRest verbose opening first span t)
      (readRangeRest verbose opening' first span' u) := by
  cases h with
  | hidden => exact .refuse_refuse ..
  | closer =>
    refine .refuse _ _ fun e u hu => .inr ?_
    exact (item_eq_ok hu).2
  | @cons c t u h =>
    simp only [readRangeRest, startsRange_capped h c, List.drop_one, List.tail_cons]
    split
    · exact kept_readRangeEnd (h.skipBlank verbose)
        (Nat.le_trans (length_skipBlank_le verbose t) (Nat.le_of_succ_le hn))
    · exact kept_item (sameItem_itemAlone ..) (h.cons c) hn

theorem kept_readRange (h : Capped t u) (c : Char) :
    Kept SameClass NearEnd t.length (readRange verbose opening (c :: t))
      (readRange verbose opening' (c :: u)) := by
  rw [readRange_eq, readRange_eq]
  refine (kept_readItem h c).bind ?_ ?_
  · rintro first _ left right rfl hleft hn
    exact kept_readRangeRest (hleft.skipBlank verbose)
      (Nat.le_trans (length_skipBlank_le verbose left) hn)
  · rintro first right (rfl | ⟨rfl, more, rfl, -⟩) e left hok
    · simp only [skipBlank_nil] at hok
      cases hok
    · -- an assertion is no item
      simp only [skipBlank_cons (c := '{') (by decide) (by decide)] at hok
      cases hok

/-! ### Whole classes -/

/-- Two readings of an operator, neither of which finds one, or both of which find the same. -/
inductive KeptOperator (n : Nat) :
    Option (SetOperator × Text) → Option (SetOperator × Text) → Prop
  | none : KeptOperator n none none
  | some (op : SetOperator) {t u : Text} (h : Capped t u) (hn : t.length ≤ n) :
      KeptOperator n (some (op, t)) (some (op, u))

theorem readOperator?_singleton (c : Char) : readOperator? [c] = none := by
  unfold readOperator?
  split <;> simp_all

theorem readOperator?_closer (c : Char) : readOperator? [c, ')'] = none := by
  unfold readOperator?
  split <;> simp_all

theorem keptOperator_readOperator? (h : Capped t u) (c : Char) :
    KeptOperator t.length (readOperator? (c :: t)) (readOperator? (c :: u)) := by
  cases h with
  | hidden => rw [readOperator?_singleton]; exact .none
  | closer => rw [readOperator?_singleton, readOperator?_closer]; exact .none
  | @cons d t u h =>
    unfold readOperator?
    split
    · obtain ⟨rfl, hd⟩ := List.cons.inj ‹_›
      obtain ⟨rfl, rfl⟩ := List.cons.inj hd
      exact .some .intersection h (Nat.le_succ _)
    · obtain ⟨rfl, hd⟩ := List.cons.inj ‹_›
      obtain ⟨rfl, rfl⟩ := List.cons.inj hd
      exact .some .difference h (Nat.le_succ _)
    · obtain ⟨rfl, hd⟩ := List.cons.inj ‹_›
      obtain ⟨rfl, rfl⟩ := List.cons.inj hd
      exact .some .symmetricDifference h (Nat.le_succ _)
    · split
      · simp_all
      · simp_all
      · simp_all
      · exact .none

section Rounds

variable {fuel : Nat} {o : OpenClass} {outer : List OpenClass} {rest more : Text}

theorem readClassBody_of_nil (h : skipBlank verbose rest = []) (fuel : Nat) (o : OpenClass)
    (outer : List OpenClass) :
    readClassBody verbose fuel o outer rest = refuse .classUnclosed o.opening := by
  cases fuel with
  | zero => rfl
  | succ fuel => rw [readClassBody, h]

theorem readClassBody_of_bracket (h : skipBlank verbose rest = ']' :: more) :
    readClassBody verbose (fuel + 1) o outer rest =
      match outer with
      | [] => .ok (.bracketed o.negated (o.close more).1 (o.close more).2, more)
      | p :: outer => readClassBody verbose fuel
          (p.add (.bracketed o.negated (o.close more).1 (o.close more).2)) outer more := by
  rw [readClassBody, h]
  rfl

theorem readClassBody_of_nested (h : skipBlank verbose rest = '[' :: more) :
    readClassBody verbose (fuel + 1) o outer rest =
      match readAscii? ('[' :: more) with
      | some (item, next) => readClassBody verbose fuel (o.add item) outer next
      | none => (do
        let (inner, next) ← openClass verbose ('[' :: more)
        readClassBody verbose fuel inner (o :: outer) next) := by
  rw [readClassBody, h]
  rfl

theorem readClassBody_of_item {c : Char} (h : skipBlank verbose rest = c :: more) (hc : c ≠ ']')
    (hc' : c ≠ '[') :
    readClassBody verbose (fuel + 1) o outer rest =
      match readOperator? (c :: more) with
      | some (op, next) => readClassBody verbose fuel (o.operate op) outer next
      | none => (do
        let (item, next) ← readRange verbose o.opening (c :: more)
        readClassBody verbose fuel (o.add item) outer next) := by
  rw [readClassBody, h]
  split
  · contradiction
  · exact absurd (List.cons.inj ‹_›).1 hc
  · exact absurd (List.cons.inj ‹_›).1 hc'
  · rfl

/-- The parenthesis closes no class. -/
theorem readClassBody_ne_ok (h : skipBlank verbose rest = [] ∨ skipBlank verbose rest = [')'])
    (fuel : Nat) (o : OpenClass) (outer : List OpenClass) (r : Expr × Text) :
    readClassBody verbose fuel o outer rest ≠ .ok r := by
  rcases h with h | h
  · rw [readClassBody_of_nil h]
    rintro ⟨⟩
  · cases fuel with
    | zero => rintro ⟨⟩
    | succ fuel =>
      have hrange : readRange verbose o.opening [')'] = refuse .classUnclosed o.opening := by
        rw [readRange_eq]
        show readRangeRest verbose o.opening (.atom (.literal ⟨')', false⟩)) _
          (skipBlank verbose []) = _
        rw [skipBlank_nil]
        rfl
      rw [readClassBody_of_item h (by decide) (by decide)]
      simp only [readOperator?, hrange]
      rintro ⟨⟩

theorem readClassBody_ne_ok_of_nearEnd {α : Type} {a : α} (h : NearEnd a rest) (fuel : Nat)
    (o : OpenClass) (outer : List OpenClass) (r : Expr × Text) :
    readClassBody verbose fuel o outer rest ≠ .ok r := by
  refine readClassBody_ne_ok ?_ fuel o outer r
  rcases h with rfl | rfl
  · exact .inl (skipBlank_nil verbose)
  · exact .inr (skipBlank_closer verbose)

end Rounds

/-- Whether two expressions are the same but for places. -/
def SameExpr (e e' : Expr) : Prop := e.bare = e'.bare

/-- Round by round; each takes a character, so there is fuel for all of them. -/
theorem kept_readClassBody {o o' : OpenClass} {outer outer' : List OpenClass}
    (ho : SameOpenClass o o') (houter : List.Forall₂ SameOpenClass outer outer') (h : Capped t u)
    {fuel fuel' : Nat} (hfuel : t.length ≤ fuel) (hfuel' : t.length < fuel') {n : Nat}
    (hn : t.length ≤ n) :
    Kept SameExpr Never n (readClassBody verbose fuel o outer t)
      (readClassBody verbose fuel' o' outer' u) := by
  induction fuel generalizing o o' outer outer' t u fuel' with
  | zero =>
    obtain rfl := List.length_eq_zero_iff.1 (Nat.le_zero.1 hfuel)
    have hend : skipBlank verbose u = [] ∨ skipBlank verbose u = [')'] := by
      cases h with
      | hidden => exact .inl (skipBlank_nil verbose)
      | closer => exact .inr (skipBlank_closer verbose)
    exact .refused fun _ _ hok => readClassBody_ne_ok hend _ _ _ _ hok
  | succ fuel ih =>
    have hlength := length_skipBlank_le verbose t
    rcases (h.skipBlank verbose).split with ⟨ht, hu⟩ | ⟨ht, hu⟩ | ⟨c, a, b, ht, hu, hab⟩
    · rw [readClassBody_of_nil ht, readClassBody_of_nil hu]
      exact .refuse_refuse ..
    · rw [readClassBody_of_nil ht]
      exact .refuse _ _ fun _ _ hok => readClassBody_ne_ok (.inr hu) _ _ _ _ hok
    · rw [ht, List.length_cons] at hlength
      obtain ⟨fuel', rfl⟩ : ∃ k, fuel' = k + 1 := ⟨fuel' - 1, by omega⟩
      by_cases hc : c = ']'
      · subst hc
        rw [readClassBody_of_bracket ht, readClassBody_of_bracket hu]
        cases houter with
        | nil => exact .read (ho.bare_close a b) hab (by omega)
        | cons hp houter =>
          exact ih (hp.add (ho.close a b)) houter hab (by omega) (by omega) (by omega)
      by_cases hc' : c = '['
      · subst hc'
        rw [readClassBody_of_nested ht, readClassBody_of_nested hu]
        have hascii := keptAscii_readAscii? hab
        generalize readAscii? ('[' :: a) = x, readAscii? ('[' :: b) = y at hascii ⊢
        cases hascii with
        | none =>
          refine (kept_openClass hab '[').bind ?_ ?_
          · intro inner inner' left right hinner hleft hm
            exact ih hinner (.cons ho houter) hleft (by omega) (by omega) (by omega)
          · intro inner right hright _ _ hok
            exact readClassBody_ne_ok_of_nearEnd hright _ _ _ _ hok
        | some he hleft hm => exact ih (ho.add he) houter hleft (by omega) (by omega) (by omega)
      · rw [readClassBody_of_item ht hc hc', readClassBody_of_item hu hc hc']
        have hoperator := keptOperator_readOperator? hab c
        generalize readOperator? (c :: a) = x, readOperator? (c :: b) = y at hoperator ⊢
        cases hoperator with
        | none =>
          refine (kept_readRange hab c).bind ?_ ?_
          · intro item item' left right hitem hleft hm
            exact ih (ho.add hitem) houter hleft (by omega) (by omega) (by omega)
          · intro item right hright _ _ hok
            exact readClassBody_ne_ok_of_nearEnd hright _ _ _ _ hok
        | some op hleft hm => exact ih (ho.operate op) houter hleft (by omega) (by omega) (by omega)

/-- A class is read alike; one that the text breaks off is refused with the parenthesis too. -/
theorem kept_readClass (h : Capped t u) (b : Char) :
    Kept SameExpr Never t.length (readClass verbose (b :: t)) (readClass verbose (b :: u)) := by
  have hlength := h.length_le
  refine (kept_openClass h b).bind ?_ ?_
  · intro o o' left right ho hleft hn
    exact kept_readClassBody ho .nil hleft (by simp only [List.length_cons]; omega)
      (by simp only [List.length_cons]; omega) hn
  · intro o right hright _ _ hok
    exact readClassBody_ne_ok_of_nearEnd hright _ _ _ _ hok

end TextParser.Regex.Reader
