import TextParser.Proofs.Tree.Leaf

/-!
Where the failure of a tree comes from. Main statement: it is the failure of one leaf, at the end of
a path that takes the first of all alternatives, moved on by the texts that were taken in front of
that leaf. Its message is the leaf's own, or the replacement nearest to the root on the path.

         withError m                input   taken | v
              |                     offset  bytes of taken + offset of the leaf on v
             seq
           /     \
    taken by      or                path    withError, second part, first alternative, leaf
    the first   /    \
             leaf   not told
-/

namespace TextParser.Tree

/-- A way from the root of a tree to one of its leaves. -/
inductive Path : {α : Type} → Tree α → Type 1
  | leaf {α : Type} {p : Parser α} : Path (.leaf p)
  | first {α β : Type} {a : Tree α} {b : Tree β} (path : Path a) : Path (.seq a b)
  | second {α β : Type} {a : Tree α} {b : Tree β} (path : Path b) : Path (.seq a b)
  | left {α : Type} {a b : Tree α} (path : Path a) : Path (.or a b)
  | right {α : Type} {a b : Tree α} (path : Path b) : Path (.or a b)
  | map {α β : Type} {g : α → β} {t : Tree α} (path : Path t) : Path (.map g t)
  | withError {α : Type} {message : String} {t : Tree α} (path : Path t) :
    Path (.withError message t)
  | report {α : Type} {settings : Report.Settings} {t : Tree α} (path : Path t) :
    Path (.report settings t)

namespace Path

/-- Whether the path goes into the first alternative wherever there are two. -/
def TakesFirst : {α : Type} → {t : Tree α} → Path t → Prop
  | _, _, leaf => True
  | _, _, first path => path.TakesFirst
  | _, _, second path => path.TakesFirst
  | _, _, left path => path.TakesFirst
  | _, _, right _ => False
  | _, _, map path => path.TakesFirst
  | _, _, withError path => path.TakesFirst
  | _, _, report path => path.TakesFirst

/-- The parser of the leaf at the end of the path, with the type of its values. -/
def leafParser : {α : Type} → {t : Tree α} → Path t → (β : Type) × Parser β
  | α, .leaf p, leaf => ⟨α, p⟩
  | _, _, first path => path.leafParser
  | _, _, second path => path.leafParser
  | _, _, left path => path.leafParser
  | _, _, right path => path.leafParser
  | _, _, map path => path.leafParser
  | _, _, withError path => path.leafParser
  | _, _, report path => path.leafParser

/-- The message put in place of others on the path; of several, the one nearest to the root. -/
def message? : {α : Type} → {t : Tree α} → Path t → Option String
  | _, _, leaf => none
  | _, _, first path => path.message?
  | _, _, second path => path.message?
  | _, _, left path => path.message?
  | _, _, right path => path.message?
  | _, _, map path => path.message?
  | _, .withError message _, withError _ => some message
  | _, _, report path => path.message?

/-- How a run on `input` follows a path down to the text `v` that its leaf is given: a second part
of a sequence is entered when the first part has succeeded, and the piece that this one took is put
on the list of those taken. -/
inductive Leads : {α : Type} → {t : Tree α} → Path t → Text → List Text → Text → Prop
  | leaf {α : Type} {p : Parser α} {input : Text} : Leads (t := .leaf p) leaf input [] input
  | first {α β : Type} {a : Tree α} {b : Tree β} {path : Path a} {input v : Text}
    {taken : List Text} (h : Leads path input taken v) :
    Leads (t := .seq a b) (first path) input taken v
  | second {α β : Type} {a : Tree α} {b : Tree β} {path : Path b} {piece rest v : Text}
    {taken : List Text} {x : α} (ha : (a.parser.parse (piece ++ rest)).value = .success x rest)
    (h : Leads path rest taken v) :
    Leads (t := .seq a b) (second path) (piece ++ rest) (piece :: taken) v
  | left {α : Type} {a b : Tree α} {path : Path a} {input v : Text} {taken : List Text}
    (h : Leads path input taken v) : Leads (t := .or a b) (left path) input taken v
  | right {α : Type} {a b : Tree α} {path : Path b} {input v : Text} {taken : List Text}
    {f : Failure} (ha : (a.parser.parse input).value = .failure f)
    (h : Leads path input taken v) : Leads (t := .or a b) (right path) input taken v
  | map {α β : Type} {g : α → β} {t : Tree α} {path : Path t} {input v : Text}
    {taken : List Text} (h : Leads path input taken v) :
    Leads (t := .map g t) (map path) input taken v
  | withError {α : Type} {message : String} {t : Tree α} {path : Path t} {input v : Text}
    {taken : List Text} (h : Leads path input taken v) :
    Leads (t := .withError message t) (withError path) input taken v
  | report {α : Type} {settings : Report.Settings} {t : Tree α} {path : Path t} {input v : Text}
    {taken : List Text} (h : Leads path input taken v) :
    Leads (t := .report settings t) (report path) input taken v

/-- What is taken on the way and what the leaf is given are the whole input. -/
theorem Leads.eq_append {α : Type} {t : Tree α} {path : Path t} {input v : Text}
    {taken : List Text} (h : path.Leads input taken v) : input = taken.flatten ++ v := by
  induction h with
  | leaf => rfl
  | second _ _ ih => rw [List.flatten_cons, List.append_assoc, ← ih]
  | first _ ih | left _ ih | right _ _ ih | map _ ih | withError _ ih | report _ ih => exact ih

/-! ### Choices -/

variable {α : Type}

/-- A path into the first tree of some, as a path into their choice. -/
def intoFirst : (more : List (Tree α)) → {first : Tree α} → Path first →
    Path (more.foldl or first)
  | [], _, path => path
  | _ :: more, _, path => intoFirst more (left path)

/-- In a choice, a path that takes first alternatives goes into the first tree. -/
theorem TakesFirst.exists_intoFirst (more : List (Tree α)) {first : Tree α}
    {path : Path (more.foldl or first)} (h : path.TakesFirst) :
    ∃ sub : Path first, sub.TakesFirst ∧ path = sub.intoFirst more := by
  induction more generalizing first with
  | nil => exact ⟨path, h, rfl⟩
  | cons t more ih =>
    obtain ⟨sub, hs, hpath⟩ := @ih (or first t) path h
    cases sub with
    | left sub => exact ⟨sub, hs, hpath⟩
    | right sub => exact hs.elim

end Path

/-! ### Provenance -/

/-- The failure of a tree is that of the leaf at the end of a path of first alternatives, moved on
by what was taken on the way, with the replaced message nearest to the root if there is one. -/
theorem exists_path_of_failure {α : Type} {t : Tree α}
    (ht : t.EveryLeaf fun _ p => p.LeavesSuffix) {input : Text} {f : Failure}
    (hf : (t.parser.parse input).value = .failure f) :
    ∃ (path : Path t) (taken : List Text) (v : Text) (e : Failure),
      path.TakesFirst ∧ path.Leads input taken v ∧ input = taken.flatten ++ v ∧
      (path.leafParser.2.parse v).value = .failure e ∧
      f = ⟨Text.byteSize taken.flatten + e.offset, path.message?.getD e.message⟩ := by
  suffices h : ∃ (path : Path t) (taken : List Text) (v : Text) (e : Failure),
      path.TakesFirst ∧ path.Leads input taken v ∧
      (path.leafParser.2.parse v).value = .failure e ∧
      f = ⟨Text.byteSize taken.flatten + e.offset, path.message?.getD e.message⟩ by
    obtain ⟨path, taken, v, e, hfirst, hleads, he, rfl⟩ := h
    exact ⟨path, taken, v, e, hfirst, hleads, hleads.eq_append, he, rfl⟩
  induction t generalizing input f with
  | leaf p =>
    refine ⟨.leaf, [], input, f, trivial, .leaf, hf, ?_⟩
    rw [List.flatten_nil, Text.byteSize_nil, Nat.zero_add]
    rfl
  | seq a b iha ihb =>
    rcases Parser.andThen_eq_failure_iff.1 hf with ha | ⟨x, rest, g, ha, hb, rfl⟩
    · obtain ⟨path, taken, v, e, hfirst, hleads, he, rfl⟩ := iha ht.1 ha
      exact ⟨.first path, taken, v, e, hfirst, .first hleads, he, rfl⟩
    · obtain ⟨piece, rfl⟩ := ht.1.leavesSuffix ha
      obtain ⟨path, taken, v, e, hfirst, hleads, he, rfl⟩ := ihb ht.2 hb
      refine ⟨.second path, piece :: taken, v, e, hfirst, .second ha hleads, he, ?_⟩
      -- the bytes that the first part took are those of its piece
      rw [List.flatten_cons, Text.byteSize_append, Text.byteSize_append, Nat.add_sub_cancel]
      simp only [Failure.shifted, Path.message?, Failure.mk.injEq, and_true]
      omega
  | or a b iha ihb =>
    obtain ⟨ha, -⟩ := Parser.orElse_eq_failure_iff.1 hf
    obtain ⟨path, taken, v, e, hfirst, hleads, he, rfl⟩ := iha ht.1 ha
    exact ⟨.left path, taken, v, e, hfirst, .left hleads, he, rfl⟩
  | map g t ih =>
    have hg : (t.parser.parse input).value = .failure f := by
      rw [parser, Parser.parse_map] at hf
      exact Parsed.map_eq_failure_iff.1 hf
    obtain ⟨path, taken, v, e, hfirst, hleads, he, rfl⟩ := ih ht hg
    exact ⟨.map path, taken, v, e, hfirst, .map hleads, he, rfl⟩
  | withError message t ih =>
    obtain ⟨g, hg, rfl⟩ := Parser.withError_eq_failure_iff.1 hf
    obtain ⟨path, taken, v, e, hfirst, hleads, he, rfl⟩ := ih ht hg
    exact ⟨.withError path, taken, v, e, hfirst, .withError hleads, he, rfl⟩
  | report settings t ih =>
    have hg : (t.parser.parse input).value = .failure f := by
      rw [parser, Parser.value_reporting] at hf
      exact hf
    obtain ⟨path, taken, v, e, hfirst, hleads, he, rfl⟩ := ih ht hg
    exact ⟨.report path, taken, v, e, hfirst, .report hleads, he, rfl⟩

/-- An accented letter, and then a letter and a digit or else a sign. -/
def accented : Tree (String × String) :=
  .seq (.leaf (.literal "é"))
    (.or (.withError "no digit" (.keepLeft (.leaf (.literal "a")) (.leaf (.literal "1"))))
      (.leaf (.literal "+")))

theorem everyLeaf_accented : accented.EveryLeaf fun _ p => p.LeavesSuffix :=
  have h : ∀ text, (Parser.literal text).LeavesSuffix := fun text =>
    (Parser.KeepsContract.literal text).leavesSuffix
  ⟨h _, ⟨h _, h _⟩, h _⟩

/-- The digit is missing after three bytes; the failure of the sign is not told. -/
theorem exists_path_of_failure_accented :
    (accented.parser.parse "éab".toList).value = .failure ⟨3, "no digit"⟩ ∧
    ∃ (path : Path accented) (taken : List Text) (v : Text) (e : Failure),
      path.TakesFirst ∧ path.Leads "éab".toList taken v ∧ "éab".toList = taken.flatten ++ v ∧
      (path.leafParser.2.parse v).value = .failure e ∧
      ⟨3, "no digit"⟩ = (⟨Text.byteSize taken.flatten + e.offset,
        path.message?.getD e.message⟩ : Failure) := by
  have hf : (accented.parser.parse "éab".toList).value = .failure ⟨3, "no digit"⟩ := rfl
  exact ⟨hf, exists_path_of_failure everyLeaf_accented hf⟩

end TextParser.Tree
