import TextParser.Proofs.Regex.Continued
import TextParser.Proofs.Regex.Pasted

/-!
A class repeated. Main statement: where a text by itself means a set of characters, and is no group,
the text with `+` or `*` behind it means that set one or more times, or any number of times.

    [a-z]         the set
    ^(?:[a-z]+)   a look for the start, and the set one or more times

Such a text is a single part: parts in a row, alternatives and repetitions mean something else.
-/

namespace TextParser.Regex

open Reader

variable {k : Properties} {s : CharSet} {t : Text} {e : Expr} {op c : Char} {min : Nat}

/-! ### Composite expressions -/

theorem pattern_eq_ok_iff {p : Pattern} :
    e.pattern k = .ok p ↔ ∃ f, e.meaning k {} = .ok (p, f) := by
  constructor
  · intro h
    obtain ⟨⟨p, f⟩, hmeaning, h⟩ := bind_eq_ok.1 h
    cases h
    exact ⟨f, hmeaning⟩
  · rintro ⟨f, h⟩
    rw [Expr.pattern, h]
    rfl

theorem pattern_alt_ne_set (a b : Expr) (s : CharSet) :
    (Expr.alt a b).pattern k ≠ .ok (.set s) := by
  intro h
  obtain ⟨f, h⟩ := pattern_eq_ok_iff.1 h
  obtain ⟨_, -, h⟩ := bind_eq_ok.1 h
  obtain ⟨_, -, h⟩ := bind_eq_ok.1 h
  cases h

theorem pattern_seq_ne_set (a b : Expr) (s : CharSet) :
    (Expr.seq a b).pattern k ≠ .ok (.set s) := by
  intro h
  obtain ⟨f, h⟩ := pattern_eq_ok_iff.1 h
  obtain ⟨_, -, h⟩ := bind_eq_ok.1 h
  obtain ⟨_, -, h⟩ := bind_eq_ok.1 h
  cases h

theorem pattern_times (body : Expr) (min : Nat) (max : Option Nat) (greedy : Bool) :
    (Expr.times body min max greedy).pattern k =
      body.pattern k >>= fun p => .ok (.times p min max greedy) := by
  unfold Expr.pattern
  show ((body.meaning k {} >>= _) >>= _) = ((body.meaning k {} >>= _) >>= _)
  cases body.meaning k {} with
  | error r => rfl
  | ok p => cases greedy <;> rfl

theorem pattern_times_ne_set (body : Expr) (min : Nat) (max : Option Nat) (greedy : Bool)
    (s : CharSet) : (Expr.times body min max greedy).pattern k ≠ .ok (.set s) := by
  intro h
  rw [pattern_times] at h
  obtain ⟨_, -, h⟩ := bind_eq_ok.1 h
  cases h

namespace Reader

/-- Whether anything was read of a group. -/
def Level.Begun (l : Level) : Prop := l.alternatives ≠ [] ∨ l.parts ≠ []

/-- Whether alternatives, parts in a row or a repetition were read of a group. -/
inductive Level.Composite : Level → Prop
  | alternatives {l : Level} (h : l.alternatives ≠ []) : Composite l
  | parts {l : Level} {e e' : Expr} {parts : List Expr} (h : l.parts = e :: e' :: parts) :
      Composite l
  | times {l : Level} {body : Expr} {min : Nat} {max : Option Nat} {greedy : Bool}
      (h : l.parts = [.times body min max greedy]) : Composite l

namespace Level

variable {l : Level}

theorem Composite.begun (h : l.Composite) : l.Begun := by
  cases h with
  | alternatives h => exact .inl h
  | parts h => exact .inr (by rw [h]; exact List.cons_ne_nil _ _)
  | times h => exact .inr (by rw [h]; exact List.cons_ne_nil _ _)

theorem Begun.composite_add (h : l.Begun) (e : Expr) : (l.add e).Composite := by
  rcases h with h | h
  · exact .alternatives h
  · obtain ⟨e', parts, hparts⟩ := List.exists_cons_of_ne_nil h
    exact .parts (congrArg (e :: ·) hparts)

theorem composite_alternate (l : Level) : l.alternate.Composite :=
  .alternatives (List.cons_ne_nil _ _)

theorem composite_add_times (l : Level) (body : Expr) (min : Nat) (max : Option Nat)
    (greedy : Bool) : (l.add (.times body min max greedy)).Composite := by
  cases hparts : l.parts with
  | nil => exact .times (congrArg (_ :: ·) hparts)
  | cons e parts => exact .parts (congrArg (_ :: ·) hparts)

/-- Alternatives, parts in a row and repetitions are no single set. -/
theorem Composite.pattern_ne_set (h : l.Composite) (s : CharSet) :
    l.expr.pattern k ≠ .ok (.set s) := by
  cases halternatives : l.alternatives.reverse with
  | cons e alternatives =>
    rw [expr, halternatives]
    exact pattern_alt_ne_set _ _ s
  | nil =>
    rw [expr, halternatives, Expr.amongAlternatives]
    cases h with
    | alternatives h => exact absurd (List.reverse_eq_nil_iff.1 halternatives) h
    | parts h =>
      -- read from the left, there are two parts in front as well
      have hlength : 2 ≤ l.parts.reverse.length := by
        rw [List.length_reverse, h, List.length_cons, List.length_cons]
        omega
      cases hreverse : l.parts.reverse with
      | nil => rw [hreverse] at hlength; cases hlength
      | cons a more =>
        cases more with
        | nil => rw [hreverse, List.length_singleton] at hlength; omega
        | cons b more => exact pattern_seq_ne_set _ _ s
    | times h =>
      rw [h]
      exact pattern_times_ne_set _ _ _ _ s

end Level

/-! ### Steps -/

/-- What a part that begins with `c` does: it opens a group or sets switches, closes a group, ends
an alternative, adds an expression, or repeats the last one. -/
inductive PartStep (s : State) (c : Char) : State → Prop
  | enters {opening : Opening} {span : Span} {next : State} (hopen : c = '(')
      (h : s.enter span opening = .ok next) : PartStep s c next
  | closes {span : Span} {next : State} (h : s.closeGroup span = .ok next) : PartStep s c next
  | alternates : PartStep s c { s with level := s.level.alternate }
  | adds (e : Expr) : PartStep s c (s.add e)
  | repeats {e : Expr} {inner : State} {span : Span} {min : Nat} {max : Option Nat} {greedy : Bool}
      (h : s.operand span = .ok (e, inner)) : PartStep s c (inner.add (.times e min max greedy))

section

variable {s next : State} {rest : Text}

theorem partStep_of_repeatLast {min : Nat} {max : Option Nat} {span : Span}
    (h : s.repeatLast min max span t = .ok (next, rest)) : PartStep s c next := by
  rw [repeatLast_eq] at h
  obtain ⟨⟨e, inner⟩, hoperand, hend⟩ := bind_eq_ok.1 h
  have hend : repeatEnd inner e min max t = .ok (next, rest) := hend
  unfold repeatEnd at hend
  split at hend <;> cases hend
  · exact .repeats hoperand
  · exact .repeats hoperand

theorem partStep_of_readPart (h : readPart s c t = .ok (next, rest)) : PartStep s c next := by
  unfold readPart at h
  dsimp only at h
  split at h
  · obtain ⟨⟨opening, left⟩, -, h⟩ := bind_eq_ok.1 h
    obtain ⟨inner, henter, h⟩ := bind_eq_ok.1 h
    cases h
    exact .enters rfl henter
  · obtain ⟨outer, hclose, h⟩ := bind_eq_ok.1 h
    cases h
    exact .closes hclose
  · cases h
    exact .alternates
  · obtain ⟨⟨e, left⟩, -, h⟩ := bind_eq_ok.1 h
    cases h
    exact .adds e
  · exact partStep_of_repeatLast h
  · exact partStep_of_repeatLast h
  · exact partStep_of_repeatLast h
  · obtain ⟨⟨e, inner⟩, hoperand, h⟩ := bind_eq_ok.1 h
    obtain ⟨⟨rounds, left⟩, -, h⟩ := bind_eq_ok.1 h
    cases h
    exact .repeats hoperand
  · obtain ⟨⟨e, left⟩, -, h⟩ := bind_eq_ok.1 h
    cases h
    exact .adds _
  · cases h
    exact .adds _
  · cases h
    exact .adds _
  · cases h
    exact .adds _
  · cases h
    exact .adds _

end

/-! ### Composite states -/

namespace State

/-- What was read outside all groups. -/
def outermost (s : State) : Level := (s.groups.map OpenGroup.around).getLastD s.level

/-- Whether what is read will be composite once all groups are closed. -/
def Composite (s : State) : Prop :=
  s.outermost.Composite ∨ s.groups ≠ [] ∧ s.outermost.Begun

variable {s next : State} {t : Text} {c : Char} {rest : Text}

theorem outermost_of_nil (h : s.groups = []) : s.outermost = s.level := by
  rw [outermost, h]
  rfl

theorem outermost_of_cons {g : OpenGroup} {groups : List OpenGroup} (h : s.groups = g :: groups) :
    s.outermost = (groups.map OpenGroup.around).getLastD g.around := by
  rw [outermost, h, List.map_cons, List.getLastD_cons]

theorem Composite.begun (h : s.Composite) : s.outermost.Begun := by
  rcases h with h | ⟨-, h⟩
  · exact h.begun
  · exact h

/-- What is read inside groups changes nothing outside. -/
theorem composite_of_level (hs : s.outermost.Begun) (hgroups : next.groups = s.groups)
    (hlevel : s.level.Begun → next.level.Composite) : next.Composite := by
  cases h : s.groups with
  | nil =>
    rw [outermost_of_nil h] at hs
    rw [h] at hgroups
    left
    rw [outermost_of_nil hgroups]
    exact hlevel hs
  | cons g groups =>
    rw [outermost_of_cons h] at hs
    rw [h] at hgroups
    right
    rw [outermost_of_cons hgroups, hgroups]
    exact ⟨List.cons_ne_nil _ _, hs⟩

theorem composite_add (hs : s.outermost.Begun) (e : Expr) : (s.add e).Composite :=
  composite_of_level hs rfl fun h => h.composite_add e

theorem composite_openGroup (hs : s.outermost.Begun) (span : Span) (switches : Switches) :
    (s.openGroup span switches).Composite := by
  refine .inr ⟨List.cons_ne_nil _ _, ?_⟩
  rw [outermost_of_cons rfl]
  exact hs

theorem composite_enter (hs : s.outermost.Begun) {span : Span} {o : Opening}
    (h : s.enter span o = .ok next) : next.Composite := by
  cases o with
  | switch switches =>
    cases h
    exact composite_add hs _
  | group switches =>
    cases h
    exact composite_openGroup hs span switches
  | named name place =>
    rw [enter] at h
    split at h <;> cases h
    exact composite_openGroup hs span []

theorem composite_closeGroup (hs : s.outermost.Begun) {span : Span}
    (h : s.closeGroup span = .ok next) : next.Composite := by
  cases hgroups : s.groups with
  | nil => rw [closeGroup_of_nil hgroups] at h; cases h
  | cons g groups =>
    rw [closeGroup_of_cons hgroups] at h
    rw [outermost_of_cons hgroups] at hs
    cases h
    -- the state inside `g`, its level given back
    exact composite_add (s := { s with level := g.around, groups := groups, verbose := g.verbose })
      hs _

theorem operand_eq_ok {e : Expr} {span : Span} (h : s.operand span = .ok (e, next)) :
    ∃ parts, next = { s with level := { s.level with parts } } := by
  cases hparts : s.level.parts with
  | nil => rw [operand_of_nil hparts] at h; cases h
  | cons e parts =>
    rw [operand_of_cons hparts] at h
    split at h <;> cases h
    exact ⟨parts, rfl⟩

theorem composite_add_times (hs : s.outermost.Begun) {e : Expr} {span : Span}
    (h : s.operand span = .ok (e, next)) (min : Nat) (max : Option Nat) (greedy : Bool) :
    (next.add (.times e min max greedy)).Composite := by
  obtain ⟨parts, rfl⟩ := operand_eq_ok h
  exact composite_of_level hs rfl fun _ => Level.composite_add_times ..

/-- What is read on where something was read makes it composite. -/
theorem composite_readPart (hs : s.outermost.Begun) (h : readPart s c t = .ok (next, rest)) :
    next.Composite := by
  cases partStep_of_readPart h with
  | enters _ henter => exact composite_enter hs henter
  | closes hclose => exact composite_closeGroup hs hclose
  | alternates => exact composite_of_level hs rfl fun _ => Level.composite_alternate _
  | adds e => exact composite_add hs e
  | repeats hoperand => exact composite_add_times hs hoperand ..

theorem Composite.of_readParts {e : Expr} {fuel : Nat} (hs : s.Composite)
    (h : readParts fuel s t = .ok e) (set : CharSet) : e.pattern k ≠ .ok (.set set) := by
  have hfinish {s : State} (hs : s.Composite) (h : s.finish = .ok e) :
      e.pattern k ≠ .ok (.set set) := by
    obtain ⟨hgroups, rfl⟩ := finish_eq_ok_iff.1 h
    rw [← outermost_of_nil hgroups]
    exact (hs.resolve_right fun hopen => hopen.1 hgroups).pattern_ne_set set
  induction fuel generalizing s t with
  | zero =>
    rw [readParts] at h
    split at h
    · exact hfinish hs h
    · cases h
  | succ fuel ih =>
    rw [readParts] at h
    split at h
    · exact hfinish hs h
    · obtain ⟨⟨next, rest⟩, hpart, h⟩ := bind_eq_ok.1 h
      exact ih (composite_readPart hs.begun hpart) h

end State

/-! ### Single parts -/

theorem readParts_of_part {s next : State} {more rest : Text} (hs : s.verbose = false)
    (h : readPart s c more = .ok (next, rest)) (fuel : Nat) :
    readParts (fuel + 1) s (c :: more) = readParts fuel next rest := by
  rw [readParts_of_cons (by rw [hs]; exact skipBlank_false _), h]
  rfl

/-- The first part of a text, if it is no group, is one expression or ends an empty alternative. -/
theorem add_or_composite_of_readPart {next : State} {rest : Text} (hc : c ≠ '(')
    (h : readPart {} c t = .ok (next, rest)) : (∃ e, next = State.add {} e) ∨ next.Composite := by
  cases partStep_of_readPart h with
  | enters hopen _ => exact absurd hopen hc
  | closes hclose => cases hclose
  | alternates => exact .inr (.inl (Level.composite_alternate _))
  | adds e => exact .inl ⟨e, rfl⟩
  | repeats hoperand => cases hoperand

/-- Behind one part, another one makes it composite. -/
theorem pattern_ne_set_of_second {only : Expr} {fuel : Nat} {rest : Text}
    (h : readParts fuel (State.add {} only) (c :: rest) = .ok e) (s : CharSet) :
    e.pattern k ≠ .ok (.set s) := by
  cases fuel with
  | zero => cases h
  | succ fuel =>
    cases hpart : readPart (State.add {} only) c rest with
    | error r =>
      rw [readParts_of_cons (skipBlank_false _), hpart] at h
      cases h
    | ok found =>
      rw [readParts_of_part rfl hpart] at h
      have hbegun : (State.add {} only).outermost.Begun := .inr (List.cons_ne_nil _ _)
      exact (State.composite_readPart hbegun hpart).of_readParts h s

/-- A text that means a set, and is no group, is a single part. -/
theorem exists_part_of_set (h : readPattern k t = .ok (.set s)) (hgroup : t.head? ≠ some '(') :
    ∃ c more e, t = c :: more ∧ c ≠ '(' ∧ readPart {} c more = .ok (State.add {} e, []) ∧
      e.pattern k = .ok (.set s) := by
  obtain ⟨e, hread, hpattern⟩ := bind_eq_ok.1 h
  cases t with
  | nil => cases hread; cases hpattern
  | cons c more =>
    have hc : c ≠ '(' := fun hc => hgroup (congrArg some hc)
    have hread : readParts (more.length + 1) {} (c :: more) = .ok e := hread
    cases hpart : readPart {} c more with
    | error r =>
      rw [readParts_of_cons (skipBlank_false _), hpart] at hread
      cases hread
    | ok found =>
      obtain ⟨next, rest⟩ := found
      rw [readParts_of_part rfl hpart] at hread
      have hnot (hnext : next.Composite) : False := hnext.of_readParts hread s hpattern
      obtain ⟨only, rfl⟩ := (add_or_composite_of_readPart hc hpart).resolve_right hnot
      cases rest with
      | nil =>
        rw [readParts_of_nil (skipBlank_nil _), State.finish_eq_ok_iff] at hread
        obtain rfl : e = only := hread.2
        exact ⟨c, more, e, rfl, hc, hpart, hpattern⟩
      | cons d rest => exact absurd hpattern (pattern_ne_set_of_second hread s)

end Reader

/-! ### A class repeated -/

/-- The operators that repeat without an upper bound, each with the least number of rounds. -/
inductive Repeats : Char → Nat → Prop
  | some : Repeats '+' 1
  | any : Repeats '*' 0

theorem Repeats.apart (h : Repeats op min) : Apart [op, ')'] := by
  cases h <;> exact ⟨by decide, by decide, by decide⟩

namespace Reader

theorem readPart_repeats (h : Repeats op min) (he : isSwitch e = false) (s : State) :
    readPart (s.add e) op [')'] = .ok (s.add (.times e min none true), [')']) := by
  have hlast (min : Nat) (span : Span) : (s.add e).repeatLast min none span [')'] =
      .ok (s.add (.times e min none true), [')']) := by
    rw [repeatLast_eq, State.operand_of_cons rfl, he]
    rfl
  cases h with
  | some => exact hlast 1 _
  | any => exact hlast 0 _

theorem isSwitch_of_set (h : e.pattern k = .ok (.set s)) : isSwitch e = false := by
  cases e with
  | switch => cases h
  | _ => rfl

end Reader

theorem read_pasted_repeated (h : readPattern k t = .ok (.set s)) (hgroup : t.head? ≠ some '(')
    (hop : Repeats op min) :
    ∃ e, Expr.read (pasted (t ++ [op])) =
        .ok (.seq .lineStart (.group [] (.times e min none true))) ∧
      e.pattern k = .ok (.set s) := by
  obtain ⟨c, more, e, rfl, hc, hpart, hpattern⟩ := exists_part_of_set h hgroup
  -- inside the group, the same part is read with the operator and the parenthesis behind it
  obtain ⟨e', hpart', hsame⟩ := readPart_append hop.apart hc hpart
    (s := { groups := [pastedAround (c :: more ++ [op])] }) rfl
  have hpattern' : e'.pattern k = .ok (.set s) :=
    eq_ok_of_toOption (by rw [← toOption_pattern_congr hsame, hpattern]; rfl)
  refine ⟨e', ?_, hpattern'⟩
  have hlength : (c :: more ++ [op]).length + 3 = more.length + 1 + 1 + 1 + 1 + 1 := by
    simp only [List.length_append, List.length_cons, List.length_nil]
  have htext : c :: more ++ [op] ++ [')'] = c :: (more ++ [op, ')']) := by
    rw [List.append_assoc]
    rfl
  rw [read_pasted, hlength, htext, readParts_of_part rfl hpart',
    readParts_of_part rfl (readPart_repeats hop (isSwitch_of_set hpattern') _),
    readParts_of_closer (skipBlank_false _), State.closeGroup_of_cons rfl]
  rfl

/-- A class with `+` or `*` behind it means the set repeated, tied to the start of the text. -/
theorem readPattern_pasted_repeated (h : readPattern k t = .ok (.set s))
    (hgroup : t.head? ≠ some '(') (hop : Repeats op min) :
    readPattern k (pasted (t ++ [op])) =
      .ok (.seq (.look .textStart) (.times (.set s) min none true)) := by
  obtain ⟨e, hread, hpattern⟩ := read_pasted_repeated h hgroup hop
  rw [readPattern_of_ok hread, pattern_pasted, pattern_times, hpattern]
  rfl

end TextParser.Regex
