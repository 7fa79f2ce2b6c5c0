import TextParser.Text

/-!
Lines of a text. The pieces between line feeds are found from the front; a line feed cuts the pieces
in front of it from those behind it.

    text       ab ⏎ cd ↵ ⏎ e
    pieces     ab | cd ↵ | e
    lines      ab | cd   | e        a return goes with the line feed behind it
-/

namespace TextParser.Text

variable {s t line : Text}

/-! ### Pieces -/

theorem lines_ne_nil (t : Text) : t.lines ≠ [] := by
  cases t with
  | nil => exact List.cons_ne_nil _ _
  | cons c t =>
    rw [lines]
    split
    · exact List.cons_ne_nil _ _
    · split <;> exact List.cons_ne_nil _ _

theorem lines_newline (t : Text) : lines ('\n' :: t) = [] :: lines t := by
  obtain ⟨line, more, h⟩ := List.exists_cons_of_ne_nil (lines_ne_nil t)
  rw [lines, h]
  rfl

theorem lines_cons_of_ne {c : Char} (hc : c ≠ '\n') {more : List Text}
    (h : lines t = line :: more) : lines (c :: t) = (c :: line) :: more := by
  rw [lines, h]
  exact if_neg hc

/-- A line feed cuts the pieces in front of it from those behind it. -/
theorem lines_append_newline (t : Text) :
    ∀ s : Text, lines (s ++ '\n' :: t) = lines s ++ lines t
  | [] => lines_newline t
  | c :: s => by
    have ih := lines_append_newline t s
    rw [List.cons_append]
    by_cases hc : c = '\n'
    · rw [hc, lines_newline, lines_newline, ih, List.cons_append]
    · obtain ⟨line, more, hs⟩ := List.exists_cons_of_ne_nil (lines_ne_nil s)
      rw [hs, List.cons_append] at ih
      rw [lines_cons_of_ne hc hs, lines_cons_of_ne hc ih, List.cons_append]

theorem lines_of_not_mem : ∀ {line : Text}, '\n' ∉ line → lines line = [line]
  | [], _ => rfl
  | c :: line, h => by
    rw [List.mem_cons, not_or] at h
    exact lines_cons_of_ne (Ne.symm h.1) (lines_of_not_mem h.2)

/-! ### Lines -/

/-- A line without the carriage return at its end. -/
def dropReturn (line : Text) : Text :=
  if line.getLast? = some '\r' then line.dropLast else line

/-- The lines of a text: every piece that a line feed ends, without a carriage return in front of
that, and the last piece as it is, unless it is empty. -/
def endedLines (t : Text) : List Text :=
  t.lines.dropLast.map dropReturn ++ (t.lines.getLast?.filter (· ≠ [])).toList

theorem endedLines_append_newline (s t : Text) :
    endedLines (s ++ '\n' :: t) = s.lines.map dropReturn ++ endedLines t := by
  have hne := lines_ne_nil t
  rw [endedLines, endedLines, lines_append_newline, List.dropLast_append_of_ne_nil hne,
    List.map_append, List.getLast?_append, List.getLast?_eq_some_getLast hne, Option.some_or,
    List.append_assoc]

/-- What follows a line feed adds its own lines. -/
theorem endedLines_newline_append (s t : Text) :
    endedLines (s ++ ['\n'] ++ t) = endedLines (s ++ ['\n']) ++ endedLines t := by
  have hnil : endedLines [] = [] := rfl
  rw [List.append_assoc, List.singleton_append, endedLines_append_newline,
    endedLines_append_newline, hnil, List.append_nil]

example : endedLines "a\r\r\n\nb\r".toList = ["a\r".toList, [], "b\r".toList] := by decide

theorem endedLines_of_not_mem (h : '\n' ∉ line) :
    endedLines line = if line = [] then [] else [line] := by
  rw [endedLines, lines_of_not_mem h]
  split <;> simp_all

end TextParser.Text
