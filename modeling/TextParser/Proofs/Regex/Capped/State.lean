import TextParser.Proofs.Regex.Bare
import TextParser.Proofs.Regex.Capped.Class
import TextParser.Proofs.Regex.Capped.Group
import TextParser.Regex.Reader

/-!
What a reader keeps, inside other groups and without them.

    ( a | b c          level  b c      groups  ( a |
    ^ ( ( a | b c      level  b c      groups  ( a |   and around it  ( ^

Whatever is done to the one can be done to the other, but for closing the group around.
-/

namespace TextParser.Regex.Reader

/-! ### Levels -/

/-- Whether two levels are the same but for places. -/
structure SameLevel (l l' : Level) : Prop where
  alternatives : l.alternatives.map Expr.bare = l'.alternatives.map Expr.bare
  parts : l.parts.map Expr.bare = l'.parts.map Expr.bare

theorem bare_inSequence : ∀ es : List Expr,
    (Expr.inSequence es).bare = Expr.inSequence (es.map Expr.bare)
  | [] => rfl
  | [_] => rfl
  | e :: e' :: es => congrArg (Expr.seq e.bare) (bare_inSequence (e' :: es))

theorem bare_amongAlternatives (last : Expr) : ∀ es : List Expr,
    (Expr.amongAlternatives es last).bare = Expr.amongAlternatives (es.map Expr.bare) last.bare
  | [] => rfl
  | e :: es => congrArg (Expr.alt e.bare) (bare_amongAlternatives last es)

namespace SameLevel

variable {l l' : Level} {e e' : Expr}

theorem refl (l : Level) : SameLevel l l := ⟨rfl, rfl⟩

theorem add (h : SameLevel l l') (he : SameExpr e e') : SameLevel (l.add e) (l'.add e') :=
  ⟨h.alternatives, by simp only [Level.add, List.map_cons, h.parts, show e.bare = e'.bare from he]⟩

theorem bare_parts (h : SameLevel l l') :
    (Expr.inSequence l.parts.reverse).bare = (Expr.inSequence l'.parts.reverse).bare := by
  rw [bare_inSequence, bare_inSequence, List.map_reverse, List.map_reverse, h.parts]

theorem alternate (h : SameLevel l l') : SameLevel l.alternate l'.alternate :=
  ⟨by simp only [Level.alternate, List.map_cons, h.bare_parts, h.alternatives], rfl⟩

theorem expr (h : SameLevel l l') : SameExpr l.expr l'.expr := by
  rw [SameExpr, Level.expr, Level.expr, bare_amongAlternatives, bare_amongAlternatives,
    h.bare_parts, List.map_reverse, List.map_reverse, h.alternatives]

end SameLevel

/-! ### States -/

theorem State.closeGroup_of_cons {s : State} {g : OpenGroup} {groups : List OpenGroup}
    (h : s.groups = g :: groups) (span : Span) :
    s.closeGroup span =
      .ok { s with
        level := g.around.add (.group g.switches s.level.expr)
        groups
        verbose := g.verbose } := by
  rw [closeGroup, h]

theorem State.closeGroup_of_nil {s : State} (h : s.groups = []) (span : Span) :
    s.closeGroup span = refuse .groupUnopened span := by
  rw [closeGroup, h]

theorem State.enter_named_of_none {s : State} {name : Text} (h : s.names.lookup name = none)
    (span place : Span) :
    s.enter span (.named name place) =
      .ok { s.openGroup span [] with names := (name, place) :: s.names } := by
  simp only [enter, h]

theorem State.enter_named_of_some {s : State} {name : Text} {earlier : Span}
    (h : s.names.lookup name = some earlier) (span place : Span) :
    s.enter span (.named name place) = .error ⟨.nameRepeated, place, some earlier⟩ := by
  simp only [enter, h]

/-- Whether an expression is one that cannot be repeated. -/
def isSwitch : Expr → Bool
  | .switch _ => true
  | _ => false

theorem isSwitch_congr {e e' : Expr} (h : SameExpr e e') : isSwitch e = isSwitch e' := by
  have hbare (e : Expr) : isSwitch e.bare = isSwitch e := by cases e <;> rfl
  rw [← hbare, show e.bare = e'.bare from h, hbare]

theorem State.operand_of_nil {s : State} (h : s.level.parts = []) (span : Span) :
    s.operand span = refuse .operandMissing span := by
  simp only [operand, h]

theorem State.operand_of_cons {s : State} {e : Expr} {parts : List Expr}
    (h : s.level.parts = e :: parts) (span : Span) :
    s.operand span =
      if isSwitch e then refuse .operandMissing span
      else .ok (e, { s with level := { s.level with parts } }) := by
  simp only [operand, h]
  cases e <;> rfl

theorem State.finish_of_nil {s : State} (h : s.groups = []) : s.finish = .ok s.level.expr := by
  rw [finish, h]

theorem State.finish_of_ne_nil {s : State} (h : s.groups ≠ []) : ∃ e, s.finish = .error e := by
  obtain ⟨g, groups, hg⟩ := List.exists_cons_of_ne_nil h
  exact ⟨⟨.groupUnclosed, g.span, none⟩, by rw [finish, hg]; rfl⟩

/-- Whether two open groups are the same but for places. -/
structure SameGroup (g g' : OpenGroup) : Prop where
  switches : g.switches = g'.switches
  around : SameLevel g.around g'.around
  verbose : g.verbose = g'.verbose

/-- Whether `s'` is `s` inside the groups `base`, places aside. -/
structure Within (base : List OpenGroup) (s s' : State) : Prop where
  level : SameLevel s.level s'.level
  groups : ∃ inner, s'.groups = inner ++ base ∧ List.Forall₂ SameGroup s.groups inner
  verbose : s.verbose = s'.verbose
  names : s.names.map (·.1) = s'.names.map (·.1)

namespace Within

variable {base : List OpenGroup} {s s' : State} {e e' : Expr}

theorem refl (s : State) : Within [] s s :=
  ⟨.refl _, ⟨s.groups, (List.append_nil _).symm,
    List.forall₂_same.2 fun _ _ => ⟨rfl, .refl _, rfl⟩⟩, rfl, rfl⟩

theorem add (h : Within base s s') (he : SameExpr e e') : Within base (s.add e) (s'.add e') :=
  ⟨h.level.add he, h.groups, h.verbose, h.names⟩

theorem alternate (h : Within base s s') :
    Within base { s with level := s.level.alternate } { s' with level := s'.level.alternate } :=
  ⟨h.level.alternate, h.groups, h.verbose, h.names⟩

theorem openGroup (h : Within base s s') (span span' : Span) (switches : Switches) :
    Within base (s.openGroup span switches) (s'.openGroup span' switches) := by
  obtain ⟨inner, hinner, hgroups⟩ := h.groups
  refine ⟨.refl _, ⟨⟨span', switches, s'.level, s'.verbose⟩ :: inner, ?_, ?_⟩, ?_, h.names⟩
  · rw [State.openGroup, hinner, List.cons_append]
  · exact .cons ⟨rfl, h.level, h.verbose⟩ hgroups
  · rw [State.openGroup, State.openGroup, h.verbose]

/-- Where none is open on the one side, only those of the base are on the other. -/
theorem groups_eq (h : Within base s s') (hs : s.groups = []) : s'.groups = base := by
  obtain ⟨inner, hinner, hgroups⟩ := h.groups
  rw [hs, List.forall₂_nil_left_iff] at hgroups
  rw [hinner, hgroups, List.nil_append]

/-- There are groups around if there are groups at all. -/
theorem groups_ne_nil (h : Within base s s') (hs : s.groups ≠ [] ∨ base ≠ []) :
    s'.groups ≠ [] := by
  obtain ⟨inner, hinner, hgroups⟩ := h.groups
  intro hnil
  rw [hinner, List.append_eq_nil_iff] at hnil
  rcases hs with hs | hs
  · rw [hnil.1, List.forall₂_nil_right_iff] at hgroups
    exact hs hgroups
  · exact hs hnil.2

/-- A group that both have open is closed in both. -/
theorem closeGroup (h : Within base s s') (hs : s.groups ≠ []) (span span' : Span) :
    ∃ next next', s.closeGroup span = .ok next ∧ s'.closeGroup span' = .ok next' ∧
      Within base next next' := by
  obtain ⟨inner, hinner, hgroups⟩ := h.groups
  obtain ⟨g, groups, hg⟩ := List.exists_cons_of_ne_nil hs
  rw [hg] at hgroups
  obtain ⟨g', inner, hsame, hrest, rfl⟩ := List.forall₂_cons_left_iff.1 hgroups
  have hexpr : s.level.expr.bare = s'.level.expr.bare := h.level.expr
  refine ⟨_, _, State.closeGroup_of_cons hg span, State.closeGroup_of_cons hinner span',
    hsame.around.add ?_, ⟨inner, rfl, hrest⟩, hsame.verbose, h.names⟩
  rw [SameExpr, Expr.bare, Expr.bare, hsame.switches, hexpr]

/-- What an opening asks for can be done in both, or in neither. -/
theorem enter (h : Within base s s') {o o' : Opening} (ho : SameOpening o o') (span span' : Span) :
    (∃ next next', s.enter span o = .ok next ∧ s'.enter span' o' = .ok next' ∧
        Within base next next') ∨
      (∃ e, s.enter span o = .error e) ∧ ∃ e, s'.enter span' o' = .error e := by
  cases ho with
  | switch switches =>
    refine .inl ⟨_, _, rfl, rfl, h.level.add rfl, h.groups, ?_, h.names⟩
    simp only [h.verbose]
  | group switches => exact .inl ⟨_, _, rfl, rfl, h.openGroup span span' switches⟩
  | named name place place' =>
    have hfound := lookup_isSome_congr h.names name
    cases ha : s.names.lookup name with
    | none =>
      have hb : s'.names.lookup name = none := by
        rwa [ha, Option.isSome_none, eq_comm, Option.isSome_eq_false_iff, Option.isNone_iff_eq_none]
          at hfound
      have hopen := h.openGroup span span' []
      exact .inl ⟨_, _, State.enter_named_of_none ha span place,
        State.enter_named_of_none hb span' place', hopen.level, hopen.groups, hopen.verbose,
        congrArg (name :: ·) h.names⟩
    | some earlier =>
      rw [ha, Option.isSome_some, eq_comm, Option.isSome_iff_exists] at hfound
      obtain ⟨earlier', hb⟩ := hfound
      exact .inr ⟨⟨_, State.enter_named_of_some ha span place⟩, _,
        State.enter_named_of_some hb span' place'⟩

/-- There is a part to repeat in both, or in neither. -/
theorem operand (h : Within base s s') (span span' : Span) :
    (∃ e e' next next', s.operand span = .ok (e, next) ∧ s'.operand span' = .ok (e', next') ∧
        SameExpr e e' ∧ Within base next next') ∨
      (∃ r, s.operand span = .error r) ∧ ∃ r, s'.operand span' = .error r := by
  have hparts := h.level.parts
  cases hs : s.level.parts with
  | nil =>
    rw [hs, List.map_nil, eq_comm, List.map_eq_nil_iff] at hparts
    exact .inr ⟨⟨_, State.operand_of_nil hs span⟩, _, State.operand_of_nil hparts span'⟩
  | cons e parts =>
    rw [hs, List.map_cons, eq_comm, List.map_eq_cons_iff] at hparts
    obtain ⟨e', parts', hs', he, hrest⟩ := hparts
    have he : SameExpr e e' := he.symm
    rw [State.operand_of_cons hs, State.operand_of_cons hs', ← isSwitch_congr he]
    by_cases hswitch : isSwitch e
    · rw [if_pos hswitch, if_pos hswitch]
      exact .inr ⟨⟨_, rfl⟩, _, rfl⟩
    · rw [if_neg hswitch, if_neg hswitch]
      exact .inl ⟨_, _, _, _, rfl, rfl, he, ⟨h.level.alternatives, hrest.symm⟩, h.groups, h.verbose,
        h.names⟩

end Within

end TextParser.Regex.Reader
