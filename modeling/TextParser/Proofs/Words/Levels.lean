import TextParser.Proofs.Words.Fallbacks
import TextParser.Proofs.Words.Rounds

/-!
How many levels the recursive word parser runs. Here the levels are numbered from the first letter
on, each is made where the one above it comes to need it, and each records a mark as it starts:

    input       a b c 1             a b c ␣
    marks       1 2 3 4             1 2 3

Without the marks the run is that of the recursive parser, and the marks tell its levels. Main
statement: as many levels run as the word has letters, or where there is no word one more, and never
more than 256; and the loop of a list of words goes round once for every word.
-/

namespace TextParser.Words

open Unicode (isWhiteSpace)

variable {mark : Nat → Event} {depth n : Nat} {c : Char} {input rest : Text}
  {p q next next' : Parser String}

/-! ### Levels from the top -/

/-- Runs the level for the letter at place `depth`, counted from 1. It is marked, and the level
below it is made only where that is run. -/
def runLevel (mark : Nat → Event) (depth : Nat) (input : Text) : Logged (Parsed String) := do
  Logged.record (mark depth)
  let next : Parser String := ⟨fun rest =>
    if _h : depth < maxRecursiveWordLength then runLevel mark (depth + 1) rest
    else pure (.failure ⟨0, wordError⟩)⟩
  (wordLevel.level next).parse input
termination_by maxRecursiveWordLength - depth

/-- The level for the letter at place `depth`. -/
def levelAt (mark : Nat → Event) (depth : Nat) : Parser String := ⟨runLevel mark depth⟩

/-- What a level runs below itself. -/
def belowLevel (mark : Nat → Event) (depth : Nat) : Parser String :=
  if depth < maxRecursiveWordLength then levelAt mark (depth + 1) else Parser.fail 0 wordError

theorem parse_levelAt (mark : Nat → Event) (depth : Nat) (input : Text) :
    (levelAt mark depth).parse input =
      ⟨((wordLevel.level (belowLevel mark depth)).parse input).value,
        mark depth :: ((wordLevel.level (belowLevel mark depth)).parse input).log⟩ := by
  have hnext : belowLevel mark depth = ⟨fun rest =>
      if depth < maxRecursiveWordLength then runLevel mark (depth + 1) rest
      else pure (.failure ⟨0, wordError⟩)⟩ := by
    rw [belowLevel]
    split <;> rfl
  have hrun : (levelAt mark depth).parse input = runLevel mark depth input := rfl
  rw [hrun, runLevel, hnext]
  rfl

/-! ### Counting -/

/-- How many of `n` levels run: one for every letter of a word, and where there is no word, one for
every letter and one behind them. -/
def levelsRun (n : Nat) (input : Text) : Nat :=
  let letters := (input.takeWhile Char.isAlpha).length
  if HasWord n input then letters else min (letters + 1) n

theorem levelsRun_le (n : Nat) (input : Text) : levelsRun n input ≤ n := by
  rw [levelsRun]
  split
  · rename_i hword
    exact hword.2.1
  · exact Nat.min_le_right _ _

theorem levelsRun_zero (input : Text) : levelsRun 0 input = 0 :=
  Nat.le_zero.1 (levelsRun_le 0 input)

theorem levelsRun_of_no_letter (h : input.takeWhile Char.isAlpha = []) :
    levelsRun (n + 1) input = 1 := by
  rw [levelsRun, if_neg fun hword => hword.1 h, h, List.length_nil]
  omega

theorem levelsRun_of_whitespace (hc : c.isAlpha) (h : rest.takeWhile isWhiteSpace ≠ []) :
    levelsRun (n + 1) (c :: rest) = 1 := by
  rw [levelsRun, if_pos (hasWord_cons_of_whitespace n hc h), List.takeWhile_cons_of_pos hc,
    takeWhile_isAlpha_eq_nil h]
  rfl

/-- With no white space behind a letter the levels below run too. -/
theorem levelsRun_cons (hc : c.isAlpha) (h : rest.takeWhile isWhiteSpace = []) :
    levelsRun (n + 1) (c :: rest) = levelsRun n rest + 1 := by
  rw [levelsRun, levelsRun, List.takeWhile_cons_of_pos hc, List.length_cons]
  simp only [hasWord_cons_iff n hc h]
  split <;> omega

/-! ### Marked runs -/

/-- Whether an event is no mark of a level, but one of its fallbacks. -/
def isFallback (e : Event) : Bool := e = .fellBack

/-- Whether `p` does what `q` does and besides marks its `n` levels, the first one at `depth`. -/
structure MarksLevels (mark : Nat → Event) (depth n : Nat) (p q : Parser String) : Prop where
  value_eq : ∀ input, (p.parse input).value = (q.parse input).value
  fallbacks_eq : ∀ input, (p.parse input).log.filter isFallback = (q.parse input).log
  marks_eq : ∀ input, (p.parse input).log.filter (!isFallback ·) =
    (List.range' depth (levelsRun n input)).map mark

theorem filter_isFallback_replicate (k : Nat) :
    (List.replicate k Event.fellBack).filter isFallback = List.replicate k .fellBack := by
  rw [List.filter_replicate_of_pos (by rfl)]

theorem filter_marks_replicate (k : Nat) :
    (List.replicate k Event.fellBack).filter (!isFallback ·) = [] := by
  rw [List.filter_replicate_of_neg (by decide)]

/-- A level that is not the deepest possible passes the marks of the levels below on. -/
theorem marksLevels_level (hmark : ∀ depth, mark depth ≠ .fellBack)
    (hp : ∀ input, p.parse input = ⟨((wordLevel.level next).parse input).value,
      mark depth :: ((wordLevel.level next).parse input).log⟩)
    (hnext : MarksLevels mark (depth + 1) n next next') :
    MarksLevels mark depth (n + 1) p (wordLevel.level next') := by
  have hfallback : isFallback (mark depth) = false := decide_eq_false (hmark depth)
  suffices h : ∀ input, (p.parse input).value = ((wordLevel.level next').parse input).value ∧
      (p.parse input).log.filter isFallback = ((wordLevel.level next').parse input).log ∧
      (p.parse input).log.filter (!isFallback ·) =
        (List.range' depth (levelsRun (n + 1) input)).map mark from
    ⟨fun input => (h input).1, fun input => (h input).2.1, fun input => (h input).2.2⟩
  intro input
  rw [hp]
  simp only [List.filter_cons, hfallback, Bool.false_eq_true, if_false, Bool.not_false, if_true]
  by_cases hletters : input.takeWhile Char.isAlpha = []
  · rw [parse_level_of_no_letter next hletters, parse_level_of_no_letter next' hletters,
      levelsRun_of_no_letter hletters, filter_isFallback_replicate, filter_marks_replicate]
    exact ⟨rfl, rfl, rfl⟩
  obtain ⟨c, rest, rfl, hc⟩ := exists_cons_of_letter hletters
  by_cases hblanks : rest.takeWhile isWhiteSpace = []
  · rw [parse_level_of_no_whitespace next hc hblanks, parse_level_of_no_whitespace next' hc hblanks,
      levelsRun_cons hc hblanks]
    simp only [List.filter_append, filter_isFallback_replicate, filter_marks_replicate,
      hnext.value_eq, hnext.fallbacks_eq, hnext.marks_eq, List.nil_append, List.range'_succ,
      List.map_cons, and_self]
  · rw [parse_level_of_whitespace next hc hblanks, parse_level_of_whitespace next' hc hblanks,
      levelsRun_of_whitespace hc hblanks, filter_isFallback_replicate, filter_marks_replicate]
    exact ⟨rfl, rfl, rfl⟩

/-- Below the deepest level nothing runs. -/
theorem marksLevels_zero (depth : Nat) :
    MarksLevels mark depth 0 (Parser.fail 0 wordError) (Parser.fail 0 wordError) where
  value_eq _ := rfl
  fallbacks_eq _ := rfl
  marks_eq input := by rw [levelsRun_zero]; rfl

/-- Level by level from the deepest one up. -/
theorem marksLevels_levelAt (hmark : ∀ depth, mark depth ≠ .fellBack) : ∀ (below depth : Nat),
    depth + below = maxRecursiveWordLength →
      MarksLevels mark depth (below + 1) (levelAt mark depth) (wordLevel below)
  | 0, depth, hdepth => by
    have hlast : belowLevel mark depth = Parser.fail 0 wordError :=
      if_neg (by omega)
    refine marksLevels_level hmark (parse_levelAt mark depth) ?_
    rw [hlast]
    exact marksLevels_zero (depth + 1)
  | below + 1, depth, hdepth => by
    have hinner : belowLevel mark depth = levelAt mark (depth + 1) :=
      if_pos (by omega)
    refine marksLevels_level hmark (parse_levelAt mark depth) ?_
    rw [hinner]
    exact marksLevels_levelAt hmark below (depth + 1) (by omega)

/-! ### Both repetitions -/

/-- The loop ends on every text, after no more rounds than the text has bytes and, if it succeeds,
after one for every word, for a token takes at least one byte. The recursive parser runs a level for
every letter of a word, and where there is no word one more, but never more than 256. -/
theorem repetitions_progress (input : Text) :
    (∀ t word left, (token.parse t).value = .success word left → left.byteSize < t.byteSize) ∧
      (∃ blanks rest n, (optionalWhitespace.parse input).value = .success blanks rest ∧
        Rounds input.byteSize n rest (words.parse input).value ∧
        (∀ m r, Rounds input.byteSize m rest r → m = n ∧ r = (words.parse input).value) ∧
        n ≤ input.byteSize ∧
        ∀ list left, (words.parse input).value = .success list left → n = list.length) ∧
      ∀ mark : Nat → Event, (∀ depth, mark depth ≠ .fellBack) →
        ((levelAt mark 1).parse input).value = (wordRecursive.parse input).value ∧
        ((levelAt mark 1).parse input).log.filter isFallback = (wordRecursive.parse input).log ∧
        ((levelAt mark 1).parse input).log.filter (!isFallback ·) =
          (List.range' 1 (levelsRun 256 input)).map mark ∧
        levelsRun 256 input ≤ 256 := by
  refine ⟨fun t word left h => byteSize_lt_of_token h, ?_, fun mark hmark => ?_⟩
  · have hblanks := congrArg Logged.value (parse_optionalWhitespace input)
    have hskip := Text.byteSize_le_of_suffix (keepsContract_optionalWhitespace.leavesSuffix hblanks)
    obtain ⟨n, hn⟩ := exists_rounds input.byteSize (input.dropWhile isWhiteSpace)
    rw [← value_parse_words_of_skip hblanks] at hn
    exact ⟨_, _, n, hblanks, hn, fun m r hr => hn.unique hr, Nat.le_trans hn.le_byteSize hskip,
      fun list left h => hn.eq_length h⟩
  · have hlevels := marksLevels_levelAt hmark 255 1 rfl
    exact ⟨hlevels.value_eq input, hlevels.fallbacks_eq input, hlevels.marks_eq input,
      levelsRun_le 256 input⟩

-- One level for every letter of a word; letters with no white space behind them take one more.
example : levelsRun 256 "abc ".toList = 3 ∧ levelsRun 256 "abc1".toList = 4 := by decide

end TextParser.Words
