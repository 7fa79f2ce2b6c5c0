import TextParser.Proofs.Words.Loop

/-!
How often the loop of a list of words goes round. The loop itself counts nothing and only stops at
the end of the text or at a failure; that it stops at all is because every token takes something.

    left        ab␣␣cde␣f      cde␣f      f      (nothing)
    rounds      3              2          1      0
-/

namespace TextParser.Words

variable {size n m : Nat} {t next : Text} {first : String} {r s : Parsed (List String)}

/-! ### Rounds without a bound -/

/-- What comes of the loop on what is left of a text of `size` bytes, and in how many rounds. -/
inductive Rounds (size : Nat) : (rounds : Nat) → (left : Text) → Parsed (List String) → Prop
  | done : Rounds size 0 [] (.success [] [])
  | fails {t : Text} {f : Failure} (ht : t ≠ []) (h : (token.parse t).value = .failure f) :
      Rounds size 1 t (.failure (f.shifted (size - t.byteSize)))
  | goesOn {t next : Text} {first : String} {n : Nat} {r : Parsed (List String)} (ht : t ≠ [])
      (h : (token.parse t).value = .success first next) (hmore : Rounds size n next r) :
      Rounds size (n + 1) t (r.map (first :: ·))

/-- A text leaves the loop no choice. -/
theorem Rounds.unique (h : Rounds size n t r) (h' : Rounds size m t s) : m = n ∧ s = r := by
  induction h generalizing m s with
  | done =>
    cases h' with
    | done => exact ⟨rfl, rfl⟩
    | fails ht _ => exact absurd rfl ht
    | goesOn ht _ _ => exact absurd rfl ht
  | fails ht h =>
    cases h' with
    | done => exact absurd rfl ht
    | fails _ h' => rw [h] at h'; cases h'; exact ⟨rfl, rfl⟩
    | goesOn _ h' _ => rw [h] at h'; cases h'
  | goesOn ht h _ ih =>
    cases h' with
    | done => exact absurd rfl ht
    | fails _ h' => rw [h] at h'; cases h'
    | goesOn _ h' hmore =>
      rw [h] at h'
      cases h'
      obtain ⟨rfl, rfl⟩ := ih hmore
      exact ⟨rfl, rfl⟩

/-! ### Progress -/

/-- A token takes at least one byte off what is left. -/
theorem byteSize_lt_of_token (h : (token.parse t).value = .success first next) :
    next.byteSize < t.byteSize := by
  obtain ⟨front, rfl⟩ := keepsContract_token.leavesSuffix h
  have hlength := progresses_token h
  rw [List.length_append] at hlength
  cases front with
  | nil => exact absurd hlength (by simp)
  | cons c front =>
    have hpos := c.utf8Size_pos
    rw [Text.byteSize_append, Text.byteSize_cons]
    omega

/-- So the loop ends, whatever it is given. -/
theorem exists_rounds (size : Nat) (t : Text) : ∃ n, Rounds size n t (tokens size t).value := by
  induction hn : t.length using Nat.strongRecOn generalizing t with
  | ind n ih =>
    subst hn
    by_cases hnil : t = []
    · subst hnil
      rw [tokens_nil]
      exact ⟨0, .done⟩
    cases htok : (token.parse t).value with
    | failure f =>
      rw [tokens_of_failure hnil htok]
      exact ⟨1, .fails hnil htok⟩
    | success first next =>
      have hlt := progresses_token htok
      obtain ⟨n, hmore⟩ := ih _ hlt next rfl
      rw [tokens_of_success hnil htok hlt]
      exact ⟨n + 1, .goesOn hnil htok hmore⟩

/-- No more rounds than bytes, the last one counted in if it fails. -/
theorem Rounds.le_byteSize (h : Rounds size n t r) : n ≤ t.byteSize := by
  induction h with
  | done => exact Nat.zero_le _
  | fails ht _ =>
    obtain ⟨c, rest, rfl⟩ := List.exists_cons_of_ne_nil ht
    have hpos := c.utf8Size_pos
    rw [Text.byteSize_cons]
    omega
  | goesOn _ htok _ ih => exact Nat.lt_of_le_of_lt ih (byteSize_lt_of_token htok)

/-- A round for every word, if there is no failure. -/
theorem Rounds.eq_length (h : Rounds size n t r) {list : List String} {rest : Text}
    (hr : r = .success list rest) : n = list.length := by
  induction h generalizing list with
  | done => cases hr; rfl
  | fails _ _ => cases hr
  | goesOn _ _ _ ih =>
    obtain ⟨others, hothers, rfl⟩ := Parsed.map_eq_success_iff.1 hr
    rw [List.length_cons, ih hothers]

end TextParser.Words
