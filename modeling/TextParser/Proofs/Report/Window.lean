import Mathlib.Data.List.Basic
import Mathlib.Order.Bounds.Basic
import TextParser.Proofs.Report.Places
import TextParser.Unicode.Category

/-!
What a report shows. The input is cut at the last character boundary that is not beyond the place of
the failure, and the window takes up to `context` characters from either side of the cut. Main
statement: a report is the message, the window with blanks for its controls, and a caret under the
character behind the cut.

    input       skipped | before | after | beyond
    line                | before | after |
    marker              |        ^

If nothing is shown behind the cut, the caret stands one column past the window.
-/

namespace TextParser.Report

open Unicode

/-! ### Characters -/

/-- What stands for a character in a window: a blank for a control, and else the character. -/
def blanked (c : Char) : Char := if Category.control.contains c then ' ' else c

theorem contains_control (c : Char) : Category.control.contains c = Text.isControl c := by
  rw [Bool.eq_iff_iff]
  simp only [Category.contains, Category.runs, Control.control, Run.holds, Run.contains,
    Text.isControl, List.any_cons, List.any_nil, Bool.or_eq_true, Bool.and_eq_true,
    decide_eq_true_eq, beq_iff_eq, Bool.or_false]
  omega

theorem shown_eq_blanked : shown = blanked := by
  funext c
  rw [shown, blanked, contains_control]

/-! ### Windows -/

/-- A text in four pieces, of which the two in the middle are shown. -/
@[ext]
structure Window where
  skipped : Text
  before : Text
  after : Text
  beyond : Text

namespace Window

variable {w u : Window} {input : Text} {offset context : Nat}

/-- The text in front of the cut. -/
def front (w : Window) : Text := w.skipped ++ w.before

/-- The text behind the cut. -/
def back (w : Window) : Text := w.after ++ w.beyond

/-- Whether the pieces are those of a report at byte `offset`: the cut is the greatest boundary
that is neither beyond that nor beyond the end, and on either side of it `context` characters are
shown, or all there are. -/
structure Of (w : Window) (input : Text) (offset context : Nat) : Prop where
  pieces : w.front ++ w.back = input
  isGreatest_front :
    IsGreatest {n | input.IsBoundary n ∧ n ≤ min offset input.byteSize} w.front.byteSize
  length_before : w.before.length = min context w.front.length
  length_after : w.after.length = min context w.back.length

/-- The line with the window. -/
def line (w : Window) : Text := "  | ".toList ++ (w.before ++ w.after).map blanked

/-- The line with the caret. -/
def marker (w : Window) : Text := "  | ".toList ++ List.replicate w.before.length ' ' ++ ['^']

/-! ### Lines -/

/-- A line feed is a control, so no line feed is left in a window. -/
theorem newline_not_mem_line (w : Window) : '\n' ∉ w.line := by
  intro h
  rw [line, List.mem_append] at h
  rcases h with h | h
  · exact absurd h (by decide)
  · -- it stands for no control, and not for itself, which is one
    obtain ⟨c, -, hc⟩ := List.mem_map.1 h
    rw [blanked, contains_control] at hc
    split at hc
    · cases hc
    · subst hc
      exact absurd rfl ‹_›

theorem newline_not_mem_marker (w : Window) : '\n' ∉ w.marker := by
  intro h
  simp only [marker, List.mem_append, List.mem_replicate, List.mem_singleton] at h
  rcases h with (h | ⟨-, h⟩) | h
  · exact absurd h (by decide)
  · cases h
  · cases h

/-- The caret stands behind as many characters as the window has in front of the cut. -/
theorem idxOf_caret (w : Window) : w.marker.idxOf '^' = 4 + w.before.length := by
  have hlead : '^' ∉ "  | ".toList ++ List.replicate w.before.length ' ' := by
    simp [List.mem_replicate]
  rw [marker, List.idxOf_append_of_notMem hlead, List.length_append, List.length_replicate]
  rfl

/-- Under the caret's column there is the first character behind the cut. -/
theorem getElem?_line (w : Window) : w.line[4 + w.before.length]? = w.after.head?.map blanked := by
  have hcolumn : 4 + w.before.length = ("  | ".toList ++ w.before.map blanked).length := by
    rw [List.length_append, List.length_map]
    rfl
  rw [line, List.map_append, ← List.append_assoc, hcolumn,
    List.getElem?_append_right (Nat.le_refl _), Nat.sub_self, ← List.head?_eq_getElem?,
    List.head?_map]

theorem length_line (w : Window) : w.line.length = 4 + w.before.length + w.after.length := by
  rw [line, List.length_append, List.length_map, List.length_append, ← Nat.add_assoc]
  rfl

/-! ### The window of a report -/

/-- The window that is cut out for a report. -/
def cutOut (input : Text) (offset context : Nat) : Window where
  skipped := (Text.cut offset input).1.take ((Text.cut offset input).1.length - context)
  before := (Text.cut offset input).1.takeLast context
  after := (Text.cut offset input).2.take context
  beyond := (Text.cut offset input).2.drop context

theorem front_cutOut (input : Text) (offset context : Nat) :
    (cutOut input offset context).front = (Text.cut offset input).1 :=
  List.take_append_drop _ _

theorem back_cutOut (input : Text) (offset context : Nat) :
    (cutOut input offset context).back = (Text.cut offset input).2 :=
  List.take_append_drop _ _

theorem of_cutOut (input : Text) (offset context : Nat) :
    (cutOut input offset context).Of input offset context where
  pieces := by rw [front_cutOut, back_cutOut, Text.cut_append]
  isGreatest_front := by
    rw [front_cutOut]
    have hboundary := Text.isBoundary_cut offset input
    refine ⟨⟨hboundary, Nat.le_min.2 ⟨Text.byteSize_cut_le .., hboundary.le_byteSize⟩⟩, ?_⟩
    rintro n ⟨hn, hle⟩
    exact Text.le_byteSize_cut hn (Nat.le_trans hle (Nat.min_le_left ..))
  length_before := by
    rw [front_cutOut, cutOut, Text.takeLast, List.length_drop]
    omega
  length_after := by rw [back_cutOut, cutOut, List.length_take]

/-- A text has one window at a place. -/
theorem Of.eq (hw : w.Of input offset context) (hu : u.Of input offset context) : w = u := by
  have hsize := hw.isGreatest_front.unique hu.isGreatest_front
  -- two cuts at the same byte are the same
  have hcut := (Text.splitAt?_append w.front w.back).symm
  rw [hw.pieces, hsize, ← hu.pieces, Text.splitAt?_append, Option.some.injEq, Prod.mk.injEq] at hcut
  obtain ⟨hfront, hback⟩ := hcut
  have hbefore : w.before.length = u.before.length := by
    rw [hw.length_before, hu.length_before, hfront]
  have hafter : w.after.length = u.after.length := by
    rw [hw.length_after, hu.length_after, hback]
  obtain ⟨hskipped, hbefore⟩ := List.append_inj' hfront hbefore
  obtain ⟨hafter, hbeyond⟩ := List.append_inj hback hafter
  exact Window.ext hskipped hbefore hafter hbeyond

/-- Nothing is shown behind the cut if nothing is to be shown, or nothing is there. -/
theorem Of.after_eq_nil_iff (h : w.Of input offset context) :
    w.after = [] ↔ context = 0 ∨ w.front.byteSize = input.byteSize := by
  have hend : w.front.byteSize = input.byteSize ↔ w.back = [] := by
    rw [← h.pieces, Text.byteSize_append]
    cases w.back with
    | nil => simp
    | cons c t =>
      have hpos := c.utf8Size_pos
      rw [Text.byteSize_cons]
      simp only [reduceCtorEq, iff_false]
      omega
  rw [hend, ← List.length_eq_zero_iff, h.length_after, ← List.length_eq_zero_iff]
  omega

end Window

/-! ### Reports -/

/-- A number is written in digits. -/
theorem newline_not_mem_toString (n : Nat) : '\n' ∉ (toString n).toList := by
  intro h
  rw [Nat.toString_eq_ofList_toDigits, String.toList_ofList] at h
  exact absurd (Nat.isDigit_of_mem_toDigits (by decide) (by decide) h) (by decide)

theorem toList_pushn (s : String) (c : Char) (n : Nat) :
    (s.pushn c n).toList = s.toList ++ List.replicate n c := by
  rw [String.pushn_eq_repeat_push]
  induction n with
  | zero => rw [List.replicate_zero, List.append_nil, Nat.repeat]
  | succ n ih => rw [Nat.repeat, String.toList_push, ih, List.replicate_succ', List.append_assoc]

/-- A report is its message and place, and the two lines of its window. -/
theorem render_eq_cutOut (input : Text) (f : Failure) (context : Nat) :
    render input f context = f.message ++ " (at offset " ++ toString f.offset ++ ")\n" ++
      String.ofList (Window.cutOut input f.offset context).line ++ "\n" ++
      String.ofList (Window.cutOut input f.offset context).marker := by
  have hself (s : String) : toString s = s := rfl
  rw [render, shown_eq_blanked, ← String.toList_inj]
  simp [hself, toList_pushn, window, Window.line, Window.marker, Window.cutOut]

/-- A report is its message and place, the window with blanks for its controls, and a caret. It has
two line feeds besides those of the message, and the caret is under the character behind the cut, or
one column past the window if there is none or none is shown. -/
theorem render_shows_window (input : Text) (f : Failure) (context : Nat) :
    ∃ w : Window, w.Of input f.offset context ∧
      (∀ u : Window, u.Of input f.offset context → u = w) ∧
      render? input f context = some (render input f context) ∧
      render input f context = f.message ++ " (at offset " ++ toString f.offset ++ ")\n" ++
        String.ofList w.line ++ "\n" ++ String.ofList w.marker ∧
      (render input f context).toList.count '\n' = f.message.toList.count '\n' + 2 ∧
      if context = 0 ∨ w.front.byteSize = input.byteSize then
        w.line.length = w.marker.idxOf '^'
      else ∃ c, w.back.head? = some c ∧ w.line[w.marker.idxOf '^']? = some (blanked c) := by
  have hw := Window.of_cutOut input f.offset context
  have hrender := render_eq_cutOut input f context
  generalize Window.cutOut input f.offset context = w at hw hrender
  refine ⟨w, hw, fun u hu => hu.eq hw, render?_eq input f context, hrender, ?_, ?_⟩
  · rw [hrender]
    simp only [String.toList_append, String.toList_ofList, List.count_append,
      List.count_eq_zero.2 w.newline_not_mem_line, List.count_eq_zero.2 w.newline_not_mem_marker,
      List.count_eq_zero.2 (newline_not_mem_toString f.offset)]
    rfl
  · rw [w.idxOf_caret, w.getElem?_line, w.length_line]
    split
    · rw [hw.after_eq_nil_iff.2 ‹_›]
      rfl
    · obtain ⟨c, t, hc⟩ := List.exists_cons_of_ne_nil fun h => ‹¬ _› (hw.after_eq_nil_iff.1 h)
      rw [Window.back, hc]
      exact ⟨c, rfl, rfl⟩

example : render "é\nüz".toList ⟨4, "x"⟩ 10 = "x (at offset 4)\n  | é üz\n  |   ^" := by cbv

end TextParser.Report
