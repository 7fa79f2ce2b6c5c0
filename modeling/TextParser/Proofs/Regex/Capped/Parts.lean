import TextParser.Proofs.Regex.Capped.Count
import TextParser.Proofs.Regex.Capped.State

/-!
Expressions with a closing parenthesis behind the text, part by part.

    text         a b | c         read by itself
    text         a b | c )       read inside a group

As long as the first reading goes on, so does the second. At the end of the text the second one
closes the group, unless the parenthesis stands in a comment.
-/

namespace TextParser.Regex.Reader

variable {base : List OpenGroup} {s s' : State} {t u : Text} {c : Char}

/-! ### The end of a text -/

theorem readParts_of_nil (h : skipBlank s.verbose t = []) (fuel : Nat) :
    readParts fuel s t = s.finish := by
  cases fuel <;> rw [readParts, h]

theorem readParts_of_cons {more : Text} (h : skipBlank s.verbose t = c :: more) (fuel : Nat) :
    readParts (fuel + 1) s t = (do
      let (s, rest) ← readPart s c more
      readParts fuel s rest) := by
  rw [readParts, h]

/-! ### One part -/

/-- Inside other groups nothing good comes of reading on. -/
def Doomed (base : List OpenGroup) (s : State) (u : Text) : Prop :=
  base ≠ [] → ∀ fuel, ∃ e, readParts fuel s u = .error e

theorem kept_add {e e' : Expr} (hs : Within base s s') (he : SameExpr e e') (h : Capped t u) :
    Kept (Within base) (Doomed base) t.length (.ok (s.add e, t)) (.ok (s'.add e', u)) :=
  .read (hs.add he) h (Nat.le_refl _)

/-- A part repeated; a question mark at the front of `rest` makes that lazy. -/
def repeatEnd (s : State) (e : Expr) (min : Nat) (max : Option Nat) (rest : Text) :
    Except Refusal (State × Text) :=
  match rest with
  | '?' :: left => .ok (s.add (.times e min max false), left)
  | _ => .ok (s.add (.times e min max true), rest)

theorem repeatLast_eq (s : State) (min : Nat) (max : Option Nat) (span : Span) (rest : Text) :
    s.repeatLast min max span rest = (do
      let (e, s) ← s.operand span
      repeatEnd s e min max rest) := rfl

theorem repeatEnd_of_ne (hc : c ≠ '?') (s : State) (e : Expr) (min : Nat) (max : Option Nat) :
    repeatEnd s e min max (c :: t) = .ok (s.add (.times e min max true), c :: t) := by
  unfold repeatEnd
  split
  · exact absurd (List.cons.inj ‹_›).1 hc
  · rfl

theorem sameExpr_times {e e' : Expr} (he : SameExpr e e') (min : Nat) (max : Option Nat)
    (greedy : Bool) : SameExpr (.times e min max greedy) (.times e' min max greedy) := by
  rw [SameExpr, Expr.bare, Expr.bare, show e.bare = e'.bare from he]

theorem kept_repeatEnd {e e' : Expr} (hs : Within base s s') (he : SameExpr e e') (min : Nat)
    (max : Option Nat) (h : Capped t u) :
    Kept (Within base) (Doomed base) t.length (repeatEnd s e min max t)
      (repeatEnd s' e' min max u) := by
  have htimes := sameExpr_times he min max
  cases h with
  | hidden => exact kept_add hs (htimes true) .hidden
  | closer => exact kept_add hs (htimes true) .closer
  | cons c h =>
    by_cases hc : c = '?'
    · subst hc
      exact (kept_add hs (htimes false) h).mono (Nat.le_succ _)
    · rw [repeatEnd_of_ne hc, repeatEnd_of_ne hc]
      exact kept_add hs (htimes true) (h.cons c)

theorem kept_repeatLast (hs : Within base s s') (min : Nat) (max : Option Nat) (span span' : Span)
    (h : Capped t u) :
    Kept (Within base) (Doomed base) t.length (s.repeatLast min max span t)
      (s'.repeatLast min max span' u) := by
  rw [repeatLast_eq, repeatLast_eq]
  rcases hs.operand span span' with ⟨e, e', next, next', hn, hn', he, hnext⟩ | ⟨⟨e, hn⟩, e', hn'⟩
  · rw [hn, hn']
    exact kept_repeatEnd hnext he min max h
  · rw [hn, hn']
    exact .refused (by rintro _ _ ⟨⟩)

/-- A part repeated as often as the count in front of `rest` says. -/
def countEnd (s : State) (e : Expr) (rest : Text) : Except Refusal (State × Text) := do
  let (rounds, left) ← readCount s.verbose ('{' :: rest)
  return (s.add (.times e rounds.min rounds.max rounds.greedy), left)

theorem kept_countEnd {e e' : Expr} (hs : Within base s s') (he : SameExpr e e')
    (h : Capped t u) :
    Kept (Within base) (Doomed base) t.length (countEnd s e t) (countEnd s' e' u) := by
  rw [countEnd, countEnd, ← hs.verbose]
  refine (kept_readCount h '{').bind ?_ (by rintro _ _ ⟨⟩)
  rintro rounds _ left right rfl hleft hm
  exact (kept_add hs (sameExpr_times he ..) hleft).mono hm

theorem readPart_brace (s : State) (t : Text) :
    readPart s '{' t = (do
      let (e, s) ← s.operand (.point ('{' :: t))
      countEnd s e t) := rfl

theorem kept_readPart_brace (hs : Within base s s') (h : Capped t u) :
    Kept (Within base) (Doomed base) t.length (readPart s '{' t) (readPart s' '{' u) := by
  rw [readPart_brace, readPart_brace]
  rcases hs.operand (.point ('{' :: t)) (.point ('{' :: u)) with
    ⟨e, e', next, next', hn, hn', he, hnext⟩ | ⟨⟨e, hn⟩, e', hn'⟩
  · rw [hn, hn']
    exact kept_countEnd hnext he h
  · rw [hn, hn']
    exact .refused (by rintro _ _ ⟨⟩)

/-- A brace with nothing but the parenthesis in it is no count. -/
theorem readParts_brace {more : Text} (h : skipBlank s.verbose more = [')']) (fuel : Nat) :
    ∃ e, readParts fuel s ('{' :: more) = .error e := by
  have hbrace := skipBlank_cons (c := '{') (by decide) (by decide) s.verbose more
  cases fuel with
  | zero => exact ⟨_, by rw [readParts, hbrace]; rfl⟩
  | succ fuel =>
    rw [readParts_of_cons hbrace, readPart_brace]
    cases hparts : s.level.parts with
    | nil => rw [State.operand_of_nil hparts]; exact ⟨_, rfl⟩
    | cons e parts =>
      rw [State.operand_of_cons hparts]
      split
      · exact ⟨_, rfl⟩
      · obtain ⟨r, hcount⟩ : ∃ r, readCount s.verbose ('{' :: more) = .error r := by
          cases hcount : readCount s.verbose ('{' :: more) with
          | ok r => exact absurd hcount (readCount_of_closer h r)
          | error r => exact ⟨r, rfl⟩
        refine ⟨r, ?_⟩
        simp only [countEnd, bind, Except.bind, hcount]

theorem kept_opening (hs : Within base s s') (span span' : Span) (h : Capped t u) :
    Kept (Within base) (Doomed base) t.length
      (do
        let (opening, rest) ← readOpening s.verbose ('(' :: t)
        let s ← s.enter span opening
        return (s, rest))
      (do
        let (opening, rest) ← readOpening s'.verbose ('(' :: u)
        let s ← s'.enter span' opening
        return (s, rest)) := by
  rw [← hs.verbose]
  refine (kept_readOpening h '(').bind ?_ ?_
  · intro o o' left right ho hleft hm
    rcases hs.enter ho span span' with ⟨next, next', hn, hn', hnext⟩ | ⟨⟨e, hn⟩, e', hn'⟩
    · simp only [hn, hn']
      exact .read hnext hleft hm
    · simp only [hn, hn']
      exact .refused (by rintro _ _ ⟨⟩)
  · rintro o right ⟨rfl, switches, rfl⟩ next left hok hbase fuel
    cases hok
    rw [readParts_of_nil (skipBlank_nil _)]
    exact State.finish_of_ne_nil (hs.groups_ne_nil (.inr hbase))

theorem sameExpr_escapePart (span span' : Span) (e : Escape) :
    SameExpr (escapePart span e) (escapePart span' e) := by
  cases e <;> rfl

theorem kept_escape (hs : Within base s s') (h : Capped t u) :
    Kept (Within base) (Doomed base) t.length
      (do
        let (e, rest) ← readEscape s.verbose ('\\' :: t)
        return (s.add (escapePart (.between ('\\' :: t) rest) e), rest))
      (do
        let (e, rest) ← readEscape s'.verbose ('\\' :: u)
        return (s'.add (escapePart (.between ('\\' :: u) rest) e), rest)) := by
  rw [← hs.verbose]
  refine (kept_readEscape h '\\').bind ?_ ?_
  · rintro e _ left right rfl hleft hm
    exact (kept_add hs (sameExpr_escapePart ..) hleft).mono hm
  · rintro e right hright next left hok hbase fuel
    cases hok
    rcases hright with rfl | ⟨rfl, more, rfl, hmore⟩
    · rw [readParts_of_nil (skipBlank_nil _)]
      exact State.finish_of_ne_nil (hs.groups_ne_nil (.inr hbase))
    · rw [hs.verbose] at hmore
      exact readParts_brace (s := s'.add _) hmore fuel

/-- A part is read alike, but for a parenthesis that closes no group of the text. -/
theorem kept_readPart (hs : Within base s s') (h : Capped t u) (hc : c = ')' → s.groups ≠ []) :
    Kept (Within base) (Doomed base) t.length (readPart s c t) (readPart s' c u) := by
  unfold readPart
  dsimp only
  split
  · exact kept_opening hs _ _ h
  · obtain ⟨next, next', hn, hn', hnext⟩ :=
      hs.closeGroup (hc rfl) (.one (')' :: t)) (.one (')' :: u))
    rw [hn, hn']
    exact .read hnext h (Nat.le_refl _)
  · exact .read hs.alternate h (Nat.le_refl _)
  · rw [← hs.verbose]
    refine (kept_readClass h '[').bind ?_ (by rintro _ _ ⟨⟩)
    intro e e' left right he hleft hm
    exact (kept_add hs he hleft).mono hm
  · exact kept_repeatLast hs _ _ _ _ h
  · exact kept_repeatLast hs _ _ _ _ h
  · exact kept_repeatLast hs _ _ _ _ h
  · exact kept_readPart_brace hs h
  · exact kept_escape hs h
  · exact kept_add hs rfl h
  · exact kept_add hs rfl h
  · exact kept_add hs rfl h
  · exact kept_add hs rfl h

/-! ### All parts -/

theorem bind_eq_ok {α β : Type} {x : Except Refusal α} {f : α → Except Refusal β} {b : β} :
    x >>= f = .ok b ↔ ∃ a, x = .ok a ∧ f a = .ok b := by
  cases x with
  | error e => exact ⟨by rintro ⟨⟩, by rintro ⟨a, ⟨⟩, -⟩⟩
  | ok a => exact ⟨fun h => ⟨a, rfl, h⟩, by rintro ⟨_, ⟨⟩, h⟩; exact h⟩

theorem repeatEnd_rest_eq {s₁ s₂ next₁ next₂ : State} {e₁ e₂ : Expr} {min : Nat}
    {max : Option Nat} {rest₁ rest₂ : Text} (h₁ : repeatEnd s₁ e₁ min max t = .ok (next₁, rest₁))
    (h₂ : repeatEnd s₂ e₂ min max t = .ok (next₂, rest₂)) : rest₁ = rest₂ := by
  unfold repeatEnd at h₁ h₂
  split at h₁ <;> cases h₁
  · cases h₂
    rfl
  · rename_i hlazy
    split at h₂ <;> cases h₂
    · exact (hlazy _ rfl).elim
    · rfl

theorem repeatLast_rest_eq {s₁ s₂ next₁ next₂ : State} {min : Nat} {max : Option Nat} {span : Span}
    {rest₁ rest₂ : Text} (h₁ : s₁.repeatLast min max span t = .ok (next₁, rest₁))
    (h₂ : s₂.repeatLast min max span t = .ok (next₂, rest₂)) : rest₁ = rest₂ := by
  rw [repeatLast_eq, bind_eq_ok] at h₁ h₂
  obtain ⟨_, _, h₁⟩ := h₁
  obtain ⟨_, _, h₂⟩ := h₂
  exact repeatEnd_rest_eq h₁ h₂

theorem State.verbose_of_operand {e : Expr} {next : State} {span : Span}
    (h : s.operand span = .ok (e, next)) : next.verbose = s.verbose := by
  cases hparts : s.level.parts with
  | nil => rw [State.operand_of_nil hparts] at h; cases h
  | cons e parts =>
    rw [State.operand_of_cons hparts] at h
    split at h <;> cases h
    rfl

theorem readPart_brace_rest_eq {s₁ s₂ next₁ next₂ : State} {rest₁ rest₂ : Text}
    (hverbose : s₁.verbose = s₂.verbose) (h₁ : readPart s₁ '{' t = .ok (next₁, rest₁))
    (h₂ : readPart s₂ '{' t = .ok (next₂, rest₂)) : rest₁ = rest₂ := by
  rw [readPart_brace, bind_eq_ok] at h₁ h₂
  obtain ⟨⟨e₁, part₁⟩, ho₁, h₁⟩ := h₁
  obtain ⟨⟨e₂, part₂⟩, ho₂, h₂⟩ := h₂
  obtain ⟨⟨rounds₁, left₁⟩, hr₁, h₁⟩ := bind_eq_ok.1 h₁
  obtain ⟨⟨rounds₂, left₂⟩, hr₂, h₂⟩ := bind_eq_ok.1 h₂
  rw [State.verbose_of_operand ho₁, hverbose, ← State.verbose_of_operand ho₂, hr₂] at hr₁
  cases hr₁
  cases h₁
  cases h₂
  rfl

/-- What a part leaves of the text does not depend on the groups around it. -/
theorem readPart_rest_eq {s₁ s₂ next₁ next₂ : State} {rest₁ rest₂ : Text}
    (hverbose : s₁.verbose = s₂.verbose) (h₁ : readPart s₁ c t = .ok (next₁, rest₁))
    (h₂ : readPart s₂ c t = .ok (next₂, rest₂)) : rest₁ = rest₂ := by
  by_cases hbrace : c = '{'
  · subst hbrace
    exact readPart_brace_rest_eq hverbose h₁ h₂
  unfold readPart at h₁ h₂
  dsimp only at h₁ h₂
  rw [hverbose] at h₁
  split at h₁
  · obtain ⟨⟨o, r⟩, ho, h₁⟩ := bind_eq_ok.1 h₁
    obtain ⟨⟨o', r'⟩, ho', h₂⟩ := bind_eq_ok.1 h₂
    obtain ⟨_, _, h₁⟩ := bind_eq_ok.1 h₁
    obtain ⟨_, _, h₂⟩ := bind_eq_ok.1 h₂
    rw [ho'] at ho
    cases ho
    cases h₁
    cases h₂
    rfl
  · obtain ⟨_, _, h₁⟩ := bind_eq_ok.1 h₁
    obtain ⟨_, _, h₂⟩ := bind_eq_ok.1 h₂
    cases h₁
    cases h₂
    rfl
  · cases h₁
    cases h₂
    rfl
  · obtain ⟨⟨e, r⟩, he, h₁⟩ := bind_eq_ok.1 h₁
    obtain ⟨⟨e', r'⟩, he', h₂⟩ := bind_eq_ok.1 h₂
    rw [he'] at he
    cases he
    cases h₁
    cases h₂
    rfl
  · exact repeatLast_rest_eq h₁ h₂
  · exact repeatLast_rest_eq h₁ h₂
  · exact repeatLast_rest_eq h₁ h₂
  · exact absurd rfl hbrace
  · obtain ⟨⟨e, r⟩, he, h₁⟩ := bind_eq_ok.1 h₁
    obtain ⟨⟨e', r'⟩, he', h₂⟩ := bind_eq_ok.1 h₂
    rw [he'] at he
    cases he
    cases h₁
    cases h₂
    rfl
  · cases h₁; cases h₂; rfl
  · cases h₁; cases h₂; rfl
  · cases h₁; cases h₂; rfl
  · cases h₁
    split at h₂ <;> first | contradiction | (cases h₂; rfl)

/-- A part that is read is read inside any groups, and leaves the same text there. -/
theorem readPart_capped {next : State} {rest : Text} (h : Capped t u)
    (hok : readPart s c t = .ok (next, rest)) :
    rest.length ≤ t.length ∧ ∃ rest', Capped rest rest' ∧ ∀ {base s'}, Within base s s' →
      ∃ next', readPart s' c u = .ok (next', rest') ∧ Within base next next' := by
  have hc : c = ')' → s.groups ≠ [] := by
    rintro rfl hgroups
    have hok : (s.closeGroup (.one (')' :: t)) >>= fun s => pure (s, t)) = .ok (next, rest) := hok
    rw [State.closeGroup_of_nil hgroups] at hok
    cases hok
  have hkept {base s'} (hs : Within base s s') :
      ∃ next' rest', readPart s' c u = .ok (next', rest') ∧ Within base next next' ∧
        Capped rest rest' ∧ rest.length ≤ t.length := by
    rcases (kept_readPart hs h hc).elim with
      ⟨_, next', _, rest', ht, hu, hnext, hrest, hn⟩ | ⟨e, ht, -⟩
    · rw [ht] at hok
      cases hok
      exact ⟨next', rest', hu, hnext, hrest, hn⟩
    · rw [ht] at hok
      cases hok
  obtain ⟨alone, rest', halone, -, hrest, hn⟩ := hkept (.refl s)
  refine ⟨hn, rest', hrest, fun {base s'} hs => ?_⟩
  obtain ⟨next', rest'', hu, hnext, -, -⟩ := hkept hs
  obtain rfl := readPart_rest_eq hs.verbose.symm hu halone
  exact ⟨next', hu, hnext⟩

/-- How the second reading ends when the first one succeeds with the state `last`: the parenthesis
closes a group, or is hidden in a comment. It ends so inside any groups. -/
inductive Ends (s last : State) (u : Text) (n : Nat) : Prop
  | closed (h : ∀ {base s' fuel}, Within base s s' → n < fuel → ∃ last', Within base last last' ∧
      readParts fuel s' u = last'.closeGroup (.one [')']) >>= State.finish)
  | hidden (h : ∀ {base s' fuel}, Within base s s' → n < fuel → ∃ last', Within base last last' ∧
      readParts fuel s' u = last'.finish)

theorem readParts_of_closer (h : skipBlank s.verbose t = [')']) (fuel : Nat) :
    readParts (fuel + 1) s t = s.closeGroup (.one [')']) >>= State.finish := by
  rw [readParts_of_cons h]
  show ((s.closeGroup (.one [')'])) >>= fun s => pure (s, [])) >>= _ = _
  cases s.closeGroup (.one [')']) with
  | error e => rfl
  | ok next => exact readParts_of_nil (skipBlank_nil _) fuel

theorem ends_of_nil (h : Capped [] (skipBlank s.verbose u)) (n : Nat) : Ends s s u n := by
  rcases h.split with ⟨-, hu⟩ | ⟨-, hu⟩ | ⟨_, _, _, ⟨⟩, -⟩
  · refine .hidden fun {base s' fuel} hs _ => ⟨s', hs, ?_⟩
    rw [hs.verbose] at hu
    exact readParts_of_nil hu fuel
  · refine .closed fun {base s' fuel} hs hfuel => ⟨s', hs, ?_⟩
    obtain ⟨fuel, rfl⟩ := Nat.exists_eq_succ_of_ne_zero (Nat.ne_zero_of_lt hfuel)
    rw [hs.verbose] at hu
    exact readParts_of_closer hu fuel

theorem State.finish_eq_ok_iff {e : Expr} :
    s.finish = .ok e ↔ s.groups = [] ∧ e = s.level.expr := by
  by_cases hs : s.groups = []
  · rw [State.finish_of_nil hs]
    exact ⟨by rintro ⟨⟩; exact ⟨hs, rfl⟩, by rintro ⟨-, rfl⟩; rfl⟩
  · obtain ⟨r, hr⟩ := State.finish_of_ne_nil hs
    rw [hr]
    exact ⟨by rintro ⟨⟩, fun h => absurd h.1 hs⟩

/-- A text that is read is read with the parenthesis behind it, to its end at least. -/
theorem ends_of_readParts {fuel : Nat} {e : Expr} (h : Capped t u) (hfuel : t.length ≤ fuel)
    (hok : readParts fuel s t = .ok e) :
    ∃ last : State, last.groups = [] ∧ e = last.level.expr ∧ Ends s last u t.length := by
  induction fuel generalizing s t u with
  | zero =>
    obtain rfl := List.length_eq_zero_iff.1 (Nat.le_zero.1 hfuel)
    have hend := h.skipBlank s.verbose
    rw [skipBlank_nil] at hend
    rw [readParts_of_nil (skipBlank_nil _), State.finish_eq_ok_iff] at hok
    exact ⟨s, hok.1, hok.2, ends_of_nil hend _⟩
  | succ fuel ih =>
    have hlength := length_skipBlank_le s.verbose t
    have hblank := h.skipBlank s.verbose
    cases ht : skipBlank s.verbose t with
    | nil =>
      rw [ht] at hblank
      rw [readParts_of_nil ht, State.finish_eq_ok_iff] at hok
      exact ⟨s, hok.1, hok.2, ends_of_nil hblank _⟩
    | cons c more =>
      rw [ht, List.length_cons] at hlength
      rw [readParts_of_cons ht, bind_eq_ok] at hok
      obtain ⟨⟨next, rest⟩, hpart, hok⟩ := hok
      rw [ht] at hblank
      obtain ⟨more', hu, hmore⟩ := hblank.of_cons_left
      obtain ⟨hn, rest', hrest, hstep⟩ := readPart_capped hmore hpart
      obtain ⟨last, hgroups, he, hends⟩ := ih hrest (by omega) hok
      -- the second reading takes the same step, whatever is around it
      have hread {base s' fuel} (hs : Within base s s') (hfuel : t.length < fuel) :
          ∃ next' fuel', Within base next next' ∧ rest.length < fuel' ∧
            readParts fuel s' u = readParts fuel' next' rest' := by
        obtain ⟨fuel', rfl⟩ := Nat.exists_eq_succ_of_ne_zero (Nat.ne_zero_of_lt hfuel)
        obtain ⟨next', hpart', hnext⟩ := hstep hs
        rw [hs.verbose] at hu
        refine ⟨next', fuel', hnext, by omega, ?_⟩
        rw [readParts_of_cons hu, hpart']
        rfl
      refine ⟨last, hgroups, he, ?_⟩
      cases hends with
      | closed hends =>
        refine .closed fun hs hfuel => ?_
        obtain ⟨next', fuel', hnext, hfuel', heq⟩ := hread hs hfuel
        rw [heq]
        exact hends hnext hfuel'
      | hidden hends =>
        refine .hidden fun hs hfuel => ?_
        obtain ⟨next', fuel', hnext, hfuel', heq⟩ := hread hs hfuel
        rw [heq]
        exact hends hnext hfuel'

/-- A text that leaves a group open leaves the group around it open. -/
theorem readParts_of_open (hs : Within base s s') (hbase : base ≠ []) (hopen : s.groups ≠ [])
    (h : Capped [] (skipBlank s.verbose u)) {fuel : Nat} (hfuel : 0 < fuel) :
    ∃ r, readParts fuel s' u = .error r := by
  rw [hs.verbose] at h
  rcases h.split with ⟨-, hu⟩ | ⟨-, hu⟩ | ⟨_, _, _, ⟨⟩, -⟩
  · rw [readParts_of_nil hu]
    exact State.finish_of_ne_nil (hs.groups_ne_nil (.inl hopen))
  · obtain ⟨fuel, rfl⟩ := Nat.exists_eq_succ_of_ne_zero (Nat.ne_zero_of_lt hfuel)
    obtain ⟨next, next', -, hclose, hnext⟩ := hs.closeGroup hopen (.one [')']) (.one [')'])
    rw [readParts_of_closer hu, hclose]
    exact State.finish_of_ne_nil (hnext.groups_ne_nil (.inr hbase))

theorem State.groups_ne_nil_of_finish {r : Refusal} (h : s.finish = .error r) : s.groups ≠ [] := by
  intro hs
  rw [State.finish_of_nil hs] at h
  cases h

/-- A text that is refused is refused inside a group as well, unless it closes that group. -/
theorem readParts_of_error (hs : Within base s s') (hbase : base ≠ []) (h : Capped t u)
    {fuel fuel' : Nat} (hfuel : t.length ≤ fuel) (hfuel' : t.length < fuel') {r : Refusal}
    (herr : readParts fuel s t = .error r) :
    r.fault = .groupUnopened ∨ ∃ r', readParts fuel' s' u = .error r' := by
  induction fuel generalizing s s' t u fuel' with
  | zero =>
    obtain rfl := List.length_eq_zero_iff.1 (Nat.le_zero.1 hfuel)
    have hend := h.skipBlank s.verbose
    rw [skipBlank_nil] at hend
    rw [readParts_of_nil (skipBlank_nil _)] at herr
    exact .inr (readParts_of_open hs hbase (State.groups_ne_nil_of_finish herr) hend hfuel')
  | succ fuel ih =>
    have hlength := length_skipBlank_le s.verbose t
    have hblank := h.skipBlank s.verbose
    cases ht : skipBlank s.verbose t with
    | nil =>
      rw [ht] at hblank
      rw [readParts_of_nil ht] at herr
      exact .inr (readParts_of_open hs hbase (State.groups_ne_nil_of_finish herr) hblank
        (Nat.zero_lt_of_lt hfuel'))
    | cons c more =>
      rw [ht, List.length_cons] at hlength
      rw [readParts_of_cons ht] at herr
      by_cases hclose : c = ')' ∧ s.groups = []
      · obtain ⟨rfl, hgroups⟩ := hclose
        left
        have herr : ((s.closeGroup (.one (')' :: more)) >>= fun s => pure (s, more)) >>= fun
            (s, rest) => readParts fuel s rest) = .error r := herr
        rw [State.closeGroup_of_nil hgroups] at herr
        cases herr
        rfl
      obtain ⟨fuel', rfl⟩ := Nat.exists_eq_succ_of_ne_zero (Nat.ne_zero_of_lt hfuel')
      rw [ht] at hblank
      obtain ⟨more', hu, hmore⟩ := hblank.of_cons_left
      rw [hs.verbose] at hu
      rw [readParts_of_cons hu]
      rcases (kept_readPart (c := c) hs hmore fun hc hgroups => hclose ⟨hc, hgroups⟩).elim with
        ⟨next, next', rest, rest', hpart, hpart', hnext, hrest, hn⟩ | ⟨e, -, hdoomed⟩
      · rw [hpart] at herr
        rw [hpart']
        exact ih hnext hrest (by omega) (by omega) herr
      · right
        cases hpart' : readPart s' c more' with
        | error e' => exact ⟨e', rfl⟩
        | ok r => exact hdoomed r.1 r.2 hpart' hbase fuel'

end TextParser.Regex.Reader
