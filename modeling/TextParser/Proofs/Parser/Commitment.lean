import TextParser.Proofs.Parser.Choice

/-!
What follows a choice. The choice goes on with its first alternative to succeed and never comes back
for another one. Main statement: putting what follows into the alternatives keeps every parse, and
adds one exactly where the first alternative to succeed does not lead on and a later one does.

    a or ab, then c         a ✓  c ✗              abc is lost
    a c or ab c             a ✓  c ✗  ↩  ab ✓  c ✓
-/

universe u

namespace TextParser.Parser

variable {α β : Type u} {input rest left : Text} {v : α} {w : β} {e : Failure}

/-! ### The first alternative to succeed -/

/-- Whether `a` is the first of the alternatives that succeeds on `input`, and what comes of it. -/
structure FirstSuccess (as : List (Parser α)) (input : Text) (before : List (Parser α))
    (a : Parser α) (after : List (Parser α)) (v : α) (rest : Text) : Prop where
  eq_append : as = before ++ a :: after
  before_fail : ∀ r ∈ before, (r.parse input).value.isFailure
  value_eq : (a.parse input).value = .success v rest

theorem all_fail_or_firstSuccess (input : Text) (as : List (Parser α)) :
    (∀ r ∈ as, (r.parse input).value.isFailure) ∨
      ∃ before a after v rest, FirstSuccess as input before a after v rest := by
  rcases all_fail_or_first_success input as with hall | ⟨before, a, after, has, hbefore, ha⟩
  · exact .inl hall
  · obtain ⟨v, rest, hv⟩ := Parsed.isSuccess_iff.1 ha
    exact .inr ⟨before, a, after, v, rest, has, hbefore, hv⟩

variable {first a : Parser α} {more before after : List (Parser α)} {c : Parser β}

/-- A choice succeeds as its first alternative to succeed does. -/
theorem FirstSuccess.parse_foldl (h : FirstSuccess (first :: more) input before a after v rest) :
    (more.foldl orElse first).parse input = ⟨.success v rest, triedLog input (before ++ [a])⟩ :=
  parse_foldl_orElse_of_success h.value_eq before h.eq_append h.before_fail

theorem exists_firstSuccess (h : ((more.foldl orElse first).parse input).value = .success v rest) :
    ∃ before a after, FirstSuccess (first :: more) input before a after v rest := by
  rcases all_fail_or_firstSuccess input (first :: more) with
    hall | ⟨before, a, after, x, left, hfirst⟩
  · obtain ⟨f, hf⟩ := Parsed.isFailure_iff.1 (hall first List.mem_cons_self)
    rw [parse_foldl_orElse_of_failure more hall, hf] at h
    cases h
  · rw [hfirst.parse_foldl] at h
    cases h
    exact ⟨before, a, after, hfirst⟩

/-- A choice succeeds if and only if an alternative does. -/
theorem isSuccess_foldl_orElse_iff :
    ((more.foldl orElse first).parse input).value.isSuccess ↔
      ∃ r ∈ first :: more, (r.parse input).value.isSuccess := by
  constructor
  · intro h
    obtain ⟨v, rest, hv⟩ := Parsed.isSuccess_iff.1 h
    obtain ⟨before, a, after, hfirst⟩ := exists_firstSuccess hv
    refine ⟨a, ?_, Parsed.isSuccess_iff.2 ⟨v, rest, hfirst.value_eq⟩⟩
    rw [hfirst.eq_append]
    exact List.mem_append_right before List.mem_cons_self
  · rintro ⟨r, hr, hsuccess⟩
    rcases all_fail_or_firstSuccess input (first :: more) with
      hall | ⟨before, a, after, v, rest, hfirst⟩
    · exact absurd hsuccess (Parsed.not_isSuccess_of_isFailure (hall r hr))
    · rw [hfirst.parse_foldl]
      rfl

/-! ### What follows put into the alternatives -/

/-- The alternatives with `c` put behind each. -/
def eachThen (as : List (Parser α)) (c : Parser β) : List (Parser (α × β)) :=
  as.map (·.andThen c)

theorem isSuccess_andThen_iff : ((a.andThen c).parse input).value.isSuccess ↔
    ∃ v rest, (a.parse input).value = .success v rest ∧ (c.parse rest).value.isSuccess := by
  simp only [Parsed.isSuccess_iff, andThen_eq_success_iff]
  constructor
  · rintro ⟨x, left, rest, ha, hc⟩
    exact ⟨x.1, rest, ha, x.2, left, hc⟩
  · rintro ⟨v, rest, ha, w, left, hc⟩
    exact ⟨(v, w), left, rest, ha, hc⟩

theorem isFailure_eachThen (h : ∀ r ∈ before, (r.parse input).value.isFailure) :
    ∀ q ∈ eachThen before c, (q.parse input).value.isFailure := by
  intro q hq
  obtain ⟨r, hr, rfl⟩ := List.mem_map.1 hq
  obtain ⟨f, hf⟩ := Parsed.isFailure_iff.1 (h r hr)
  rw [parse_andThen_of_failure c hf]
  rfl

/-- If `c` succeeds behind the first alternative to succeed, that one stays the first. -/
theorem FirstSuccess.eachThen (h : FirstSuccess (first :: more) input before a after v rest)
    (hc : (c.parse rest).value = .success w left) :
    FirstSuccess (first.andThen c :: Parser.eachThen more c) input (Parser.eachThen before c)
      (a.andThen c) (Parser.eachThen after c) (v, w) left where
  eq_append := by simpa [Parser.eachThen] using congrArg (Parser.eachThen · c) h.eq_append
  before_fail := isFailure_eachThen h.before_fail
  value_eq := andThen_eq_success_iff.2 ⟨rest, h.value_eq, hc⟩

/-- If `c` fails behind the first alternative to succeed, only a later one can still succeed. -/
theorem FirstSuccess.isSuccess_foldl_eachThen_iff
    (h : FirstSuccess (first :: more) input before a after v rest)
    (hc : (c.parse rest).value = .failure e) :
    (((Parser.eachThen more c).foldl orElse (first.andThen c)).parse input).value.isSuccess ↔
      ∃ r ∈ after, ((r.andThen c).parse input).value.isSuccess := by
  have hlist : first.andThen c :: Parser.eachThen more c = Parser.eachThen (first :: more) c := rfl
  rw [isSuccess_foldl_orElse_iff, hlist, h.eq_append]
  simp only [Parser.eachThen, List.mem_map, exists_exists_and_eq_and]
  constructor
  · rintro ⟨r, hr, hsuccess⟩
    obtain ⟨x, middle, hx, hmiddle⟩ := isSuccess_andThen_iff.1 hsuccess
    rcases List.mem_append.1 hr with hr | hr
    · -- what fails alone does not succeed with `c` behind it
      have hfail := h.before_fail r hr
      rw [hx] at hfail
      cases hfail
    · rcases List.mem_cons.1 hr with rfl | hr
      · rw [h.value_eq] at hx
        cases hx
        rw [hc] at hmiddle
        cases hmiddle
      · exact ⟨r, hr, hsuccess⟩
  · rintro ⟨r, hr, hsuccess⟩
    exact ⟨r, List.mem_append_right before (List.mem_cons_of_mem a hr), hsuccess⟩

/-! ### Commitment -/

/-- The failure of `c` behind the first alternative to succeed is that of the whole, moved on by
what the alternative took; the later alternatives do not run. -/
theorem FirstSuccess.parse_foldl_andThen
    (h : FirstSuccess (first :: more) input before a after v rest)
    (hc : (c.parse rest).value = .failure e) :
    ((more.foldl orElse first).andThen c).parse input =
      ⟨.failure (e.shifted (input.byteSize - rest.byteSize)),
        triedLog input (before ++ [a]) ++ (c.parse rest).log⟩ := by
  have hrun := h.parse_foldl
  rw [parse_andThen_of_success c (congrArg Logged.value hrun), hrun, hc]
  rfl

/-- A choice is committed to its first alternative to succeed. What follows it may be put into the
alternatives without losing a parse, and this adds one exactly where what follows fails behind that
alternative and succeeds behind a later one. Left outside, it then fails in the rest of the first
alternative to succeed, and no later alternative runs. -/
theorem choice_committed (first : Parser α) (more : List (Parser α)) (c : Parser β) :
    ∃ p q, (choice (first :: more)).value = .ok p ∧
      (choice ((first :: more).map (·.andThen c))).value = .ok q ∧
      ∀ input,
        (∀ x left, ((p.andThen c).parse input).value = .success x left →
          (q.parse input).value = .success x left) ∧
        ((q.parse input).value.isSuccess ∧ ((p.andThen c).parse input).value.isFailure ↔
          ∃ before a after v rest e, FirstSuccess (first :: more) input before a after v rest ∧
            (c.parse rest).value = .failure e ∧
            ∃ r ∈ after, ((r.andThen c).parse input).value.isSuccess) ∧
        ∀ before a after v rest e, FirstSuccess (first :: more) input before a after v rest →
          (c.parse rest).value = .failure e →
          (p.andThen c).parse input = ⟨.failure (e.shifted (input.byteSize - rest.byteSize)),
            triedLog input (before ++ [a]) ++ (c.parse rest).log⟩ := by
  refine ⟨more.foldl orElse first, (eachThen more c).foldl orElse (first.andThen c), rfl, rfl, ?_⟩
  intro input
  have hkept : ∀ x left, (((more.foldl orElse first).andThen c).parse input).value =
      .success x left → (((eachThen more c).foldl orElse (first.andThen c)).parse input).value =
      .success x left := by
    intro x left h
    obtain ⟨rest, hp, hc⟩ := andThen_eq_success_iff.1 h
    obtain ⟨before, a, after, hfirst⟩ := exists_firstSuccess hp
    rw [(hfirst.eachThen hc).parse_foldl]
  refine ⟨hkept, ⟨?_, ?_⟩, fun before a after v rest e h hc => h.parse_foldl_andThen hc⟩
  · rintro ⟨hq, hp⟩
    rcases all_fail_or_firstSuccess input (first :: more) with
      hall | ⟨before, a, after, v, rest, hfirst⟩
    · obtain ⟨r, hr, hsuccess⟩ := isSuccess_foldl_orElse_iff.1 hq
      exact absurd hsuccess (Parsed.not_isSuccess_of_isFailure (isFailure_eachThen hall r hr))
    · cases hc : (c.parse rest).value with
      | success w left =>
        rw [parse_andThen_of_success c (congrArg Logged.value hfirst.parse_foldl), hc] at hp
        cases hp
      | failure e =>
        exact ⟨before, a, after, v, rest, e, hfirst, hc,
          (hfirst.isSuccess_foldl_eachThen_iff hc).1 hq⟩
  · rintro ⟨before, a, after, v, rest, e, hfirst, hc, hlater⟩
    refine ⟨(hfirst.isSuccess_foldl_eachThen_iff hc).2 hlater, ?_⟩
    rw [hfirst.parse_foldl_andThen hc]
    rfl

-- With `a` taken, `c` fails in front of `b`; the way over `ab` is found only from inside.
example :
    ((((literal "a").orElse (literal "ab")).andThen (literal "c")).parse "abc".toList).value =
      .failure ⟨1, "expected c"⟩ ∧
    ((((literal "a").andThen (literal "c")).orElse
      ((literal "ab").andThen (literal "c"))).parse "abc".toList).value =
      .success ("ab", "c") [] := ⟨rfl, rfl⟩

end TextParser.Parser
