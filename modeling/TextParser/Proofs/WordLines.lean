import TextParser.Proofs.Text.Lines
import TextParser.Proofs.Text.Utf8
import TextParser.Proofs.Words.Loop
import TextParser.WordLines

/-!
Whole runs of the word filter. Main statement: a run writes for every line, in order, either its
words to standard output or a report to standard error, and no line has anything to do with another.

    input       one two ↵ ⏎      three 4 ⏎        five
    output      one | two                         five
    reports                      (at offset 6)

The input is split as bytes, before it is read as text; as a line feed is part of no other
character, the lines are those of the text.
-/

namespace TextParser.WordLines

open Words (isListed wordError)

variable {line t : Text} {bytes rest acc : List UInt8}

/-! ### Splitting bytes -/

theorem lineFeed_eq : lineFeed = Text.asciiByte '\n' := rfl

theorem carriageReturn_eq : carriageReturn = Text.asciiByte '\r' := rfl

theorem splitLines_lineFeed (acc rest : List UInt8) :
    splitLines acc (lineFeed :: rest) = chop acc.reverse :: splitLines [] rest := by
  rw [splitLines, if_pos rfl]

/-- Bytes that end no line are added to the current one. -/
theorem splitLines_append (h : lineFeed ∉ bytes) (rest : List UInt8) :
    splitLines acc (bytes ++ rest) = splitLines (bytes.reverse ++ acc) rest := by
  induction bytes generalizing acc with
  | nil => rfl
  | cons b bytes ih =>
    rw [List.mem_cons, not_or] at h
    rw [List.cons_append, splitLines, if_neg (Ne.symm h.1), ih h.2, List.reverse_cons,
      List.append_assoc, List.singleton_append]

/-- A carriage return is cut off the bytes as it is off the text. -/
theorem chop_utf8 (line : Text) : chop line.utf8 = (Text.dropReturn line).utf8 := by
  rw [chop, Text.dropReturn, carriageReturn_eq]
  simp only [Text.getLast?_utf8_iff (show '\r'.toNat < 128 by decide)]
  split
  · rename_i h
    obtain ⟨s, rfl⟩ := List.getLast?_eq_some_iff.1 h
    rw [Text.utf8_append, Text.utf8_cons, Text.utf8_nil, List.append_nil,
      Text.utf8EncodeChar_of_ascii (by decide), List.dropLast_concat, List.dropLast_concat]
  · rfl

/-- The bytes of a text are split into those of its lines; `line` is what is read of the current
one. -/
theorem splitLines_utf8 (t : Text) (h : '\n' ∉ line) :
    splitLines line.utf8.reverse t.utf8 = (Text.endedLines (line ++ t)).map Text.utf8 := by
  induction t generalizing line with
  | nil =>
    rw [List.append_nil, Text.endedLines_of_not_mem h, Text.utf8_nil, splitLines]
    simp only [List.reverse_eq_nil_iff, Text.utf8_eq_nil_iff, List.reverse_reverse]
    split <;> rfl
  | cons c t ih =>
    by_cases hc : c = '\n'
    · have hnext : splitLines (Text.utf8 []).reverse (Text.utf8 t) =
          (Text.endedLines ([] ++ t)).map Text.utf8 := ih List.not_mem_nil
      rw [Text.utf8_nil, List.reverse_nil, List.nil_append] at hnext
      rw [hc, Text.utf8_cons, Text.utf8EncodeChar_of_ascii (by decide), ← lineFeed_eq,
        List.singleton_append, splitLines_lineFeed, List.reverse_reverse, chop_utf8, hnext,
        Text.endedLines_append_newline, Text.lines_of_not_mem h]
      rfl
    · have hbytes : lineFeed ∉ String.utf8EncodeChar c :=
        fun hmem => hc (Text.eq_of_mem_utf8EncodeChar (by decide) hmem)
      have hline : '\n' ∉ line ++ [c] := by simp [h, Ne.symm hc]
      have hnext := ih hline
      rw [Text.utf8_append, Text.utf8_cons, Text.utf8_nil, List.append_nil, List.reverse_append,
        List.append_assoc, List.singleton_append] at hnext
      rw [Text.utf8_cons, splitLines_append hbytes, hnext]

/-- Reading the bytes of a text gives the text back. -/
theorem decode?_utf8 (t : Text) : decode? t.utf8 = some t := by
  have h : t.utf8.toByteArray.utf8Decode? = some t.toArray := List.utf8Decode?_utf8Encode
  rw [decode?, h, Option.map_some, List.toList_toArray]

/-! ### One line -/

/-- What is written of a line of words. -/
def joined (line : Text) : String :=
  " | ".intercalate ((line.runs Char.isAlpha).map String.ofList) ++ "\n"

/-- What is reported of any other line: the place of its first character that is neither a letter
nor white space. -/
def reported (line : Text) : String :=
  Report.render line ⟨Text.byteSize (line.takeWhile isListed), wordError⟩ 10 ++ "\n"

theorem joined_ne_empty (line : Text) : joined line ≠ "" := by
  intro h
  have hlength := congrArg String.length h
  simp [joined] at hlength

theorem reported_ne_empty (line : Text) : reported line ≠ "" := by
  intro h
  have hlength := congrArg String.length h
  simp [reported] at hlength

/-- The words of a line, or the place where it is none. -/
theorem value_parse_words (line : Text) :
    (Words.words.parse line).value =
      if line.all isListed then .success ((line.runs Char.isAlpha).map String.ofList) []
      else .failure ⟨Text.byteSize (line.takeWhile isListed), wordError⟩ := by
  have hblanks := congrArg Logged.value (Words.parse_optionalWhitespace line)
  have hloop := Words.tokens_eq line.byteSize (Words.not_isWhiteSpace_head_dropWhile line)
  rw [Text.dropWhile_dropWhile fun _ => Words.isListed_of_isWhiteSpace,
    Text.runs_dropWhile fun c hc ha => Words.not_isWhiteSpace_of_isAlpha ha hc,
    Text.byteSize_sub_dropWhile] at hloop
  rw [Words.value_parse_words_of_skip hblanks, hloop]
  simp only [Text.dropWhile_eq_nil_iff]
  split <;> rfl

/-- Nothing is written while words are looked for. -/
theorem standardError_log_words (line : Text) :
    (Words.words.parse line).log.standardError = "" := by
  have hblanks := Words.parse_optionalWhitespace line
  have hskip := congrArg Logged.value hblanks
  have hlog : (Words.tokens line.byteSize (line.dropWhile Unicode.isWhiteSpace)).log = [] := by
    rw [Words.tokens_eq _ (Words.not_isWhiteSpace_head_dropWhile line)]
    split <;> rfl
  cases ht : (Words.tokens line.byteSize (line.dropWhile Unicode.isWhiteSpace)).value with
  | success list left =>
    rw [Words.parse_words_of_success hskip ht, hblanks, hlog]
    rfl
  | failure f =>
    rw [Words.parse_words_of_failure hskip ht, hblanks, hlog]
    rfl

/-- A line is written to one of the two, and to that only. -/
theorem runLine_eq (line : Text) :
    runLine line = if line.all isListed then ⟨joined line, ""⟩ else ⟨"", reported line⟩ := by
  have hvalue := value_parse_words line
  have hlog := standardError_log_words line
  rw [runLine, lineParser]
  by_cases hall : line.all isListed
  · rw [if_pos hall] at hvalue
    rw [Parser.parse_reporting_of_success _ hvalue, hvalue, hlog, if_pos hall]
    rfl
  · rw [if_neg hall] at hvalue
    rw [Parser.parse_reporting_of_failure _ hvalue, if_neg hall]
    simp only [Log.standardError, List.map_append, String.join_append] at hlog ⊢
    rw [hlog, String.empty_append]
    rfl

/-! ### All lines -/

theorem Output.mk_append (a b c d : String) :
    (⟨a, b⟩ : Output) ++ (⟨c, d⟩ : Output) = ⟨a ++ c, b ++ d⟩ := rfl

/-- The output of some lines is that of each, in order. -/
theorem runLines_utf8 (lines : List Text) :
    runLines (lines.map Text.utf8) =
      ⟨String.join ((lines.filter (·.all isListed)).map joined),
        String.join ((lines.filter (!·.all isListed)).map reported)⟩ := by
  induction lines with
  | nil => rfl
  | cons line lines ih =>
    rw [List.map_cons, runLines, decode?_utf8]
    dsimp only
    rw [ih, runLine_eq, List.filter_cons, List.filter_cons]
    cases hall : line.all isListed <;> simp [Output.mk_append]

theorem run_utf8 (t : Text) :
    run t.utf8 = ⟨String.join ((t.endedLines.filter (·.all isListed)).map joined),
      String.join ((t.endedLines.filter (!·.all isListed)).map reported)⟩ := by
  have hlines : splitLines [] t.utf8 = t.endedLines.map Text.utf8 :=
    splitLines_utf8 t (List.not_mem_nil : '\n' ∉ ([] : Text))
  rw [run, hlines, runLines_utf8]

/-- A run writes its lines in order: for each line of letters and white space its longest runs of
letters, with bars between them, and for each other line a report of its first other character. No
line is written to both, and what is written for a text after a line feed is added to what is
written for the text in front of it. -/
theorem run_writes_lines (input : Text) :
    run input.utf8 =
        ⟨String.join ((input.endedLines.filter (·.all isListed)).map joined),
          String.join ((input.endedLines.filter (!·.all isListed)).map reported)⟩ ∧
      (∀ line : Text, if line.all isListed then runLine line = ⟨joined line, ""⟩ ∧ joined line ≠ ""
        else runLine line = ⟨"", reported line⟩ ∧ reported line ≠ "") ∧
      (∀ line w : Text, w ∈ line.runs Char.isAlpha ↔
        ∃ front back, line = front ++ (w ++ back) ∧ Text.IsRun Char.isAlpha none front w back) ∧
      ∀ front back : Text, run (front ++ ['\n'] ++ back).utf8 =
        run (front ++ ['\n']).utf8 ++ run back.utf8 := by
  refine ⟨run_utf8 input, fun line => ?_, fun line w => Text.mem_runs_iff, fun front back => ?_⟩
  · rw [runLine_eq]
    split
    · exact ⟨rfl, joined_ne_empty line⟩
    · exact ⟨rfl, reported_ne_empty line⟩
  · simp only [run_utf8, Text.endedLines_newline_append, List.filter_append,
      List.map_append, String.join_append, Output.mk_append]

end TextParser.WordLines
