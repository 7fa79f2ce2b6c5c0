import TextParser.Recognizer

/-!
A match cuts the text it was found in: what was skipped, what was matched and the rest are that
text again.

    input     skipped | matched | rest
-/

namespace TextParser.Regex

/-- A run takes characters off the front, one after the other, and leaves the others. -/
theorem Program.run_eq_append (code : Program) : ∀ {input : Text} {starts : List Nat}
    {before : Option Char} {text rest : Text},
    code.run starts before input = some (text, rest) → input = text ++ rest
  | [], starts, before, text, rest, h => by
    rw [run] at h
    split at h
    · cases h
      rfl
    · cases h
  | c :: input, starts, before, text, rest, h => by
    simp only [run] at h
    have hhere : ∀ b : Bool, (if b then some (([] : Text), c :: input) else none) =
        some (text, rest) → c :: input = text ++ rest := by
      intro b hb
      split at hb
      · cases hb
        rfl
      · cases hb
    split at h
    · exact hhere _ h
    · split at h
      · rename_i taken left hr
        cases h
        rw [run_eq_append code hr, List.cons_append]
      · exact hhere _ h

/-! ### Searching -/

theorem search_of_match {r : Regex} {before : Option Char} {input text rest : Text}
    (h : r.matchHere before input = some (text, rest)) :
    r.search before input = some ⟨[], text, rest⟩ := by
  cases input <;> rw [search.eq_def, h]

theorem search_nil_of_no_match {r : Regex} {before : Option Char}
    (h : r.matchHere before [] = none) : r.search before [] = none := by
  simp [search, h]

theorem search_cons_of_no_match {r : Regex} {before : Option Char} {c : Char} {input : Text}
    (h : r.matchHere before (c :: input) = none) :
    r.search before (c :: input) =
      (r.search (some c) input).map fun f => { f with skipped := c :: f.skipped } := by
  simp [search, h]

theorem search_eq_append (r : Regex) (input : Text) : ∀ {before : Option Char} {found : Found},
    r.search before input = some found → input = found.skipped ++ found.text ++ found.rest := by
  induction input with
  | nil =>
    intro before found h
    cases hm : r.matchHere before [] with
    | none => rw [search_nil_of_no_match hm] at h; cases h
    | some m =>
      rw [search_of_match hm] at h
      cases h
      exact Program.run_eq_append _ hm
  | cons c input ih =>
    intro before found h
    cases hm : r.matchHere before (c :: input) with
    | none =>
      rw [search_cons_of_no_match hm] at h
      obtain ⟨later, hl, rfl⟩ := Option.map_eq_some_iff.1 h
      rw [ih hl]
      rfl
    | some m =>
      rw [search_of_match hm] at h
      cases h
      exact Program.run_eq_append _ hm

/-- A search cuts the text in three. -/
theorem find?_eq_append {r : Regex} {input : Text} {found : Found}
    (h : r.find? input = some found) : input = found.skipped ++ found.text ++ found.rest := by
  rw [find?] at h
  split at h
  · obtain ⟨⟨text, rest⟩, hm, rfl⟩ := Option.map_eq_some_iff.1 h
    exact Program.run_eq_append _ hm
  · exact search_eq_append r input h

end TextParser.Regex
