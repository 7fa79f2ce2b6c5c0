import TextParser.Proofs.Regex.Capped.Text
import TextParser.Regex.Reader.Count

/-!
Counted repetitions with a closing parenthesis behind the text.

    {2,5        refused
    {2,5)       refused as well, for no brace closes the count

Between the braces there is no place for the parenthesis, so all that it can do is to stand behind
a count that is complete.
-/

namespace TextParser.Regex.Reader

open Unicode (isWhiteSpace)

variable {t u start start' : Text} {verbose : Bool}

theorem closeCount_of_ne {c : Char} (hc : c ≠ '}') (min : Nat) (max : Option Nat) :
    closeCount verbose start min max (c :: t) =
      refuse .countUnclosed (.between start (c :: t)) := by
  unfold closeCount
  split
  · exact absurd (List.cons.inj ‹_›).1 hc
  · rfl

theorem kept_closeCount (h : Capped t u) (min : Nat) (max : Option Nat) :
    Kept Eq Never t.length (closeCount verbose start min max t)
      (closeCount verbose start' min max u) := by
  cases h with
  | hidden => exact .refuse_refuse ..
  | closer => exact .refuse_refuse ..
  | @cons c t u h =>
    by_cases hc : c = '}'
    · subst hc
      have hafter := h.skipBlank verbose
      have hlength := length_skipBlank_le verbose t
      have hlazy := hafter.head?_beq (c := '?') (by decide)
      simp only [closeCount, hlazy]
      split
      · refine .read rfl ?_ ?_
        · split
          · exact hafter.drop_one
          · exact hafter
        · split
          · exact Nat.le_trans (List.drop_sublist ..).length_le (Nat.le_succ_of_le hlength)
          · exact Nat.le_succ_of_le hlength
      · exact .refuse_refuse ..
    · rw [closeCount_of_ne hc, closeCount_of_ne hc]
      exact .refuse_refuse ..

theorem Capped.dropWhile_isWhiteSpace (h : Capped t u) :
    Capped (t.dropWhile isWhiteSpace) (u.dropWhile isWhiteSpace) :=
  (h.gather_of_not false (by decide)).2

/-- A number is read alike, and refused alike. -/
theorem readDecimal_capped (verbose : Bool) (h : Capped t u) :
    (readDecimal verbose u).1.toOption = (readDecimal verbose t).1.toOption ∧
      Capped (readDecimal verbose t).2 (readDecimal verbose u).2 := by
  obtain ⟨hdigits, hstop⟩ :=
    h.dropWhile_isWhiteSpace.gather_of_not (p := Char.isDigit) verbose (by decide)
  refine ⟨?_, hstop.dropWhile_isWhiteSpace⟩
  simp only [readDecimal, hdigits]
  split
  · rfl
  · split <;> rfl

theorem length_readDecimal_le (verbose : Bool) (t : Text) :
    (readDecimal verbose t).2.length ≤ t.length := by
  have hblanks := (List.dropWhile_suffix isWhiteSpace (l := t)).length_le
  have hdigits := length_gather_le verbose Char.isDigit (t.dropWhile isWhiteSpace)
  have hend := (List.dropWhile_suffix isWhiteSpace
    (l := (gather verbose Char.isDigit (t.dropWhile isWhiteSpace)).2)).length_le
  exact Nat.le_trans hend (Nat.le_trans hdigits hblanks)

/-! ### The whole count -/

/-- The rest of a count, after the comma behind its first number. -/
def readUpper (verbose : Bool) (start : Text) (first : Except Refusal Nat) (next : Text) :
    Except Refusal (Rounds × Text) :=
  match next with
  | [] => refuse .countUnclosed (.between start [])
  | '}' :: left => do
    let min ← first
    closeCount verbose start min none ('}' :: left)
  | next => do
    let min ← first
    let max ← (readDecimal verbose next).1
    closeCount verbose start min (some max) (readDecimal verbose next).2

/-- The rest of a count, behind its first number. -/
def readAfterFirst (verbose : Bool) (start : Text) (first : Except Refusal Nat) (rest : Text) :
    Except Refusal (Rounds × Text) :=
  match rest with
  | [] => refuse .countUnclosed (.between start [])
  | ',' :: more => readUpper verbose start first (skipBlank verbose more)
  | _ => do
    let min ← first
    closeCount verbose start min (some min) rest

theorem readCount_of_ne_nil (h : skipBlank verbose (start.drop 1) ≠ []) :
    readCount verbose start =
      readAfterFirst verbose start (readDecimal verbose (skipBlank verbose (start.drop 1))).1
        (readDecimal verbose (skipBlank verbose (start.drop 1))).2 := by
  unfold readCount
  split
  · exact absurd ‹_› h
  · rfl

theorem readUpper_of_ne {first : Except Refusal Nat} {c : Char} (hc : c ≠ '}') :
    readUpper verbose start first (c :: t) = (do
      let min ← first
      let max ← (readDecimal verbose (c :: t)).1
      closeCount verbose start min (some max) (readDecimal verbose (c :: t)).2) := by
  unfold readUpper
  split
  · contradiction
  · exact absurd (List.cons.inj ‹_›).1 hc
  · rfl

theorem readAfterFirst_of_ne {first : Except Refusal Nat} {c : Char} (hc : c ≠ ',') :
    readAfterFirst verbose start first (c :: t) = (do
      let min ← first
      closeCount verbose start min (some min) (c :: t)) := by
  unfold readAfterFirst
  split
  · contradiction
  · exact absurd (List.cons.inj ‹_›).1 hc
  · rfl

/-- There is no number in a parenthesis. -/
theorem readDecimal_closer (verbose : Bool) :
    (readDecimal verbose [')']).1.toOption = none ∧ (readDecimal verbose [')']).2 = [')'] := by
  cases verbose <;> exact ⟨by decide, by decide⟩

theorem readUpper_closer (first : Except Refusal Nat) (r : Rounds × Text) :
    readUpper verbose start first [')'] ≠ .ok r := by
  rw [readUpper_of_ne (by decide)]
  have hnone := (readDecimal_closer verbose).1
  cases hd : (readDecimal verbose [')']).1 with
  | ok n => rw [hd] at hnone; cases hnone
  | error e => cases first <;> rintro ⟨⟩

theorem readAfterFirst_closer (first : Except Refusal Nat) (r : Rounds × Text) :
    readAfterFirst verbose start first [')'] ≠ .ok r := by
  rw [readAfterFirst_of_ne (by decide)]
  cases first <;> rintro ⟨⟩

variable {first second : Except Refusal Nat} {n : Nat}

theorem kept_readUpper (hnumber : second.toOption = first.toOption) (h : Capped t u)
    (hn : t.length ≤ n) :
    Kept Eq Never n (readUpper verbose start first t) (readUpper verbose start' second u) := by
  cases h with
  | hidden => exact .refuse_refuse ..
  | closer => exact .refuse _ _ fun _ _ hu => absurd hu (readUpper_closer second _)
  | @cons c t u h =>
    by_cases hc : c = '}'
    · subst hc
      exact .bind_value hnumber fun min => (kept_closeCount (h.cons '}') min none).mono hn
    · rw [readUpper_of_ne hc, readUpper_of_ne hc]
      obtain ⟨hmax, hleft⟩ := readDecimal_capped verbose (h.cons c)
      have hlength := Nat.le_trans (length_readDecimal_le verbose (c :: t)) hn
      exact .bind_value hnumber fun min => .bind_value hmax fun max =>
        (kept_closeCount hleft min (some max)).mono hlength

theorem kept_readAfterFirst (hnumber : second.toOption = first.toOption) (h : Capped t u)
    (hn : t.length ≤ n) :
    Kept Eq Never n (readAfterFirst verbose start first t)
      (readAfterFirst verbose start' second u) := by
  cases h with
  | hidden => exact .refuse_refuse ..
  | closer => exact .refuse _ _ fun _ _ hu => absurd hu (readAfterFirst_closer second _)
  | @cons c t u h =>
    by_cases hc : c = ','
    · subst hc
      exact kept_readUpper hnumber (h.skipBlank verbose)
        (Nat.le_trans (length_skipBlank_le verbose t) (Nat.le_of_succ_le hn))
    · rw [readAfterFirst_of_ne hc, readAfterFirst_of_ne hc]
      exact .bind_value hnumber fun min => (kept_closeCount (h.cons c) min (some min)).mono hn

theorem readCount_of_nil (h : skipBlank verbose (start.drop 1) = []) :
    readCount verbose start = refuse .countUnclosed (.between start []) := by
  unfold readCount
  rw [h]

theorem readCount_of_closer (h : skipBlank verbose (start.drop 1) = [')']) (r : Rounds × Text) :
    readCount verbose start ≠ .ok r := by
  have hne : skipBlank verbose (start.drop 1) ≠ [] := by rw [h]; exact List.cons_ne_nil _ _
  rw [readCount_of_ne_nil hne, h, (readDecimal_closer verbose).2]
  exact readAfterFirst_closer _ r

/-- A count is read alike; one that the text breaks off is refused with the parenthesis too. -/
theorem kept_readCount (h : Capped t u) (c : Char) :
    Kept Eq Never t.length (readCount verbose (c :: t)) (readCount verbose (c :: u)) := by
  have hinside : Capped (skipBlank verbose ((c :: t).drop 1))
      (skipBlank verbose ((c :: u).drop 1)) := h.skipBlank verbose
  rcases hinside.split with ⟨ht, hu⟩ | ⟨ht, hu⟩ | ⟨d, a, b, ht, hu, -⟩
  · rw [readCount_of_nil ht, readCount_of_nil hu]
    exact .refuse_refuse ..
  · rw [readCount_of_nil ht]
    exact .refuse _ _ fun _ _ hok => absurd hok (readCount_of_closer hu _)
  · rw [readCount_of_ne_nil (ht ▸ List.cons_ne_nil d a),
      readCount_of_ne_nil (hu ▸ List.cons_ne_nil d b)]
    obtain ⟨hnumber, hleft⟩ := readDecimal_capped verbose hinside
    exact kept_readAfterFirst hnumber hleft
      (Nat.le_trans (length_readDecimal_le verbose _) (length_skipBlank_le verbose t))

end TextParser.Regex.Reader
