import TextParser.Proofs.Parser.Run
import TextParser.Proofs.Report.Window

/-!
The same failure reported inside of a sequence and around it. The reporter inside is given what the
first part left, the one around it the whole input, with the failure moved on by what was taken.
Main statement: both reports point to the same character and show the same from there on; in front
of it, the one inside shows no more than the end of what the other shows.

    around      taken … | before | after          caret at bytes of taken + offset
    inside              | before | after          caret at offset
-/

universe u

namespace TextParser.Report

/-! ### Windows in what is left -/

/-- The last characters of a text are the last ones of a longer text too, as far as they go. -/
theorem takeLast_suffix_append (n : Nat) (front t : Text) :
    Text.takeLast n t <:+ Text.takeLast n (front ++ t) := by
  have hinner : Text.takeLast n t <:+ front ++ t :=
    (List.drop_suffix ..).trans (List.suffix_append ..)
  have houter : Text.takeLast n (front ++ t) <:+ front ++ t := List.drop_suffix ..
  refine List.suffix_of_suffix_length_le hinner houter ?_
  simp only [Text.takeLast, List.length_drop, List.length_append]
  omega

theorem takeLast_append_of_le {n : Nat} {t : Text} (h : n ≤ t.length) (front : Text) :
    Text.takeLast n (front ++ t) = Text.takeLast n t := by
  refine ((takeLast_suffix_append n front t).eq_of_length ?_).symm
  simp only [Text.takeLast, List.length_drop, List.length_append]
  omega

namespace Window

/-- Whether the window `outer` shows what `inner` shows, and at most more of what stands in front:
nothing more if `inner` has `context` characters in front of its cut. -/
structure Extends (outer inner : Window) (context : Nat) : Prop where
  after_eq : outer.after = inner.after
  before_suffix : inner.before <:+ outer.before
  before_eq : context ≤ inner.front.length → outer.before = inner.before

/-- With a text in front, a window moved on by its length shows at most more of that text. -/
theorem extends_cutOut (front t : Text) (offset context : Nat) :
    (cutOut (front ++ t) (front.byteSize + offset) context).Extends (cutOut t offset context)
      context := by
  have hcut := Text.cut_byteSize_add front t offset
  constructor
  · simp only [cutOut, hcut]
  · simp only [cutOut, hcut]
    exact takeLast_suffix_append ..
  · intro h
    rw [front_cutOut] at h
    simp only [cutOut, hcut]
    exact takeLast_append_of_le h front

/-- From the caret's column on, a window shows what is behind its cut. -/
theorem drop_idxOf_caret_line (w : Window) :
    w.line.drop (w.marker.idxOf '^') = w.after.map blanked := by
  have hcolumn : w.marker.idxOf '^' = ("  | ".toList ++ w.before.map blanked).length := by
    rw [idxOf_caret, List.length_append, List.length_map]
    rfl
  rw [hcolumn, line, List.map_append, ← List.append_assoc, List.drop_left]

end Window

/-! ### Reports of a sequence -/

variable {α β : Type u} {a : Parser α} {b : Parser β} {taken rest : Text} {x : α} {j : Nat}
  {message : String}

/-- A failure behind what `a` took, moved on. -/
theorem parse_andThen_of_second_failure (ha : (a.parse (taken ++ rest)).value = .success x rest)
    (hb : (b.parse rest).value = .failure ⟨j, message⟩) :
    (a.andThen b).parse (taken ++ rest) = ⟨.failure ⟨taken.byteSize + j, message⟩,
      (a.parse (taken ++ rest)).log ++ (b.parse rest).log⟩ := by
  rw [Parser.parse_andThen_of_success b ha, hb, Text.byteSize_append, Nat.add_sub_cancel]
  simp [Failure.shifted, Nat.add_comm]

/-- Around a sequence and inside of it, the second part's failure is reported with one message, at
offsets that differ by what the first part took. The reports show the same from the caret's column
on, and to the left of it the one inside shows the end of what the other shows; the same if there
are as many characters as the context asks for. -/
theorem shifted_report_agrees (settings : Settings)
    (ha : (a.parse (taken ++ rest)).value = .success x rest)
    (hb : (b.parse rest).value = .failure ⟨j, message⟩) :
    ((a.andThen b).reporting settings).parse (taken ++ rest) =
      ⟨.failure ⟨taken.byteSize + j, message⟩,
        (a.parse (taken ++ rest)).log ++ (b.parse rest).log ++ [.reporting (taken.byteSize + j),
          entry settings (taken ++ rest) ⟨taken.byteSize + j, message⟩]⟩ ∧
    (a.andThen (b.reporting settings)).parse (taken ++ rest) =
      ⟨.failure ⟨taken.byteSize + j, message⟩,
        (a.parse (taken ++ rest)).log ++ (b.parse rest).log ++ [.reporting j,
          entry settings rest ⟨j, message⟩]⟩ ∧
    ∃ outer inner : Window,
      outer.Of (taken ++ rest) (taken.byteSize + j) settings.context ∧
      inner.Of rest j settings.context ∧
      render (taken ++ rest) ⟨taken.byteSize + j, message⟩ settings.context =
        message ++ " (at offset " ++ toString (taken.byteSize + j) ++ ")\n" ++
          String.ofList outer.line ++ "\n" ++ String.ofList outer.marker ∧
      render rest ⟨j, message⟩ settings.context =
        message ++ " (at offset " ++ toString j ++ ")\n" ++
          String.ofList inner.line ++ "\n" ++ String.ofList inner.marker ∧
      outer.Extends inner settings.context ∧
      outer.line.drop (outer.marker.idxOf '^') = inner.line.drop (inner.marker.idxOf '^') := by
  have hextends := Window.extends_cutOut taken rest j settings.context
  refine ⟨?_, ?_, _, _, Window.of_cutOut .., Window.of_cutOut .., render_eq_cutOut ..,
    render_eq_cutOut .., hextends, ?_⟩
  · have hrun := parse_andThen_of_second_failure ha hb
    rw [Parser.parse_reporting_of_failure settings (congrArg Logged.value hrun), hrun]
  · have hreported := Parser.parse_reporting_of_failure settings hb
    rw [parse_andThen_of_second_failure ha (congrArg Logged.value hreported), hreported,
      List.append_assoc]
  · rw [Window.drop_idxOf_caret_line, Window.drop_idxOf_caret_line, hextends.after_eq]

/-- Fails inside of a first character of two bytes. -/
def failInside : Parser String := .fail 1 "not here"

/-- A letter, and then a failure inside of the `é` that follows: from inside the letter is not
shown. -/
theorem shifted_report_agrees_inside_character :
    ((Parser.literal "b").parse ("b".toList ++ "éz".toList)).value = .success "b" "éz".toList ∧
      (failInside.parse "éz".toList).value = .failure ⟨1, "not here"⟩ ∧
      ((((Parser.literal "b").andThen failInside).reporting { context := 1 }).parse
        ("b".toList ++ "éz".toList)).log =
        [.reporting 2, .printed "not here (at offset 2)\n  | bé\n  |  ^"] ∧
      (((Parser.literal "b").andThen (failInside.reporting { context := 1 })).parse
        ("b".toList ++ "éz".toList)).log =
        [.reporting 1, .printed "not here (at offset 1)\n  | é\n  | ^"] ∧
      ∃ outer inner : Window, outer.Of ("b".toList ++ "éz".toList) 2 1 ∧
        inner.Of "éz".toList 1 1 ∧ outer.Extends inner 1 := by
  have ha : ((Parser.literal "b").parse ("b".toList ++ "éz".toList)).value =
      .success "b" "éz".toList := by rfl
  have hb : (failInside.parse "éz".toList).value = .failure ⟨1, "not here"⟩ := by rfl
  obtain ⟨haround, hinside, outer, inner, houter, hinner, -, -, hextends, -⟩ :=
    shifted_report_agrees { context := 1 } ha hb
  exact ⟨ha, hb, congrArg Logged.log haround, congrArg Logged.log hinside, outer, inner, houter,
    hinner, hextends⟩

end TextParser.Report
