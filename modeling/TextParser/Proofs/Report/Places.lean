import TextParser.Proofs.Text.Bytes
import TextParser.Report

/-!
Reports by byte places: the place of a failure goes back to a boundary, the window reaches from one
boundary to another, and what is shown is sliced out between them.

    input      … | window before | window after | …
               start           place          stop

Wherever the failure is, all steps have a result, and the report is the one cut out by characters.
-/

namespace TextParser.Report

/-- Where a window starts, the place that its report points to, and where it stops. -/
structure Places where
  start : Nat
  place : Nat
  stop : Nat
  deriving DecidableEq, Repr

/-- Where the window stops: where the first character begins that it does not reach, if that is no
number beyond the length `size` of the input, or else where the input ends. -/
def stop? (size place : Nat) (after : Text) (context : Nat) : Option Nat :=
  match after.charIndices[context]? with
  | none => some size
  | some (index, _) => Place.add? size place index

/-- The places of a report at `offset`. -/
def places? (input : Text) (offset context : Nat) : Option Places := do
  let place ← input.stepBack? (min offset input.byteSize)
  let (before, after) ← input.splitAt? place
  let start := ((before.charIndices.reverse.take context).getLast?.map (·.1)).getD place
  let stop ← stop? input.byteSize place after context
  return ⟨start, place, stop⟩

/-- The report of a failure in `input`, sliced out by places. -/
def render? (input : Text) (f : Failure) (context : Nat) : Option String := do
  let ⟨start, place, stop⟩ ← places? input f.offset context
  let window ← input.slice? start stop
  let before ← input.slice? start place
  let line := String.ofList (window.map shown)
  let marker := "".pushn ' ' before.length
  return s!"{f.message} (at offset {f.offset})\n  | {line}\n  | {marker}^"

/-- Sends a report of a failure in `input`, sliced out by places. -/
def send? (settings : Settings) (input : Text) (f : Failure) : Option (Logged PUnit) := do
  let report ← render? input f settings.context
  return do
    Logged.record (.reporting f.offset)
    match settings.sink with
    | .standardError => Logged.record (.printed report)
    | .log => Logged.record (.warning report f.offset)

/-- The window stops behind the characters that it shows after the place. -/
theorem stop?_append (front back : Text) (context : Nat) :
    stop? (front ++ back).byteSize front.byteSize back context =
      some (front ++ back.take context).byteSize := by
  have hstop := Text.getElem?_charIndices context back
  rw [stop?]
  cases hat : back.charIndices[context]? with
  | none =>
    rw [hat] at hstop
    rw [Text.byteSize_append, Text.byteSize_append, ← hstop]
    rfl
  | some entry =>
    obtain ⟨index, c⟩ := entry
    rw [hat] at hstop
    have hindex : index = Text.byteSize (back.take context) := hstop
    have hwithin : back.IsBoundary (Text.byteSize (back.take context)) :=
      ⟨_, List.take_prefix .., rfl⟩
    rw [hindex, Text.byteSize_append, Text.byteSize_append]
    exact Place.add?_of_le (Nat.add_le_add_left hwithin.le_byteSize _)

/-- The places are the ends of pieces that the text is cut in. -/
theorem places?_eq (input : Text) (offset context : Nat) :
    places? input offset context =
      some ⟨Text.byteSize ((Text.cut offset input).1.take
          ((Text.cut offset input).1.length - context)),
        Text.byteSize (Text.cut offset input).1,
        Text.byteSize ((Text.cut offset input).1 ++ (Text.cut offset input).2.take context)⟩ := by
  rw [places?, Text.stepBack?_min]
  obtain ⟨front, back, rfl, hcut⟩ := Text.exists_cut_eq offset input
  simp only [hcut, Option.bind_eq_bind, Option.bind_some, Text.splitAt?_append,
    Text.getLast?_take_reverse_charIndices, stop?_append, Option.pure_def]

/-- What places keep to in a text: their order, and that none is inside of a character. -/
structure Places.Within (p : Places) (input : Text) : Prop where
  start_le_place : p.start ≤ p.place
  place_le_stop : p.place ≤ p.stop
  stop_le : p.stop ≤ input.byteSize
  isBoundary_start : input.IsBoundary p.start
  isBoundary_place : input.IsBoundary p.place
  isBoundary_stop : input.IsBoundary p.stop

theorem places?_within (input : Text) (offset context : Nat) :
    ∃ p, places? input offset context = some p ∧ p.Within input := by
  refine ⟨_, places?_eq input offset context, ?_⟩
  obtain ⟨front, back, rfl, hcut⟩ := Text.exists_cut_eq offset input
  rw [hcut]
  have hstart : front.take (front.length - context) <+: front := List.take_prefix ..
  have hstop : front ++ back.take context <+: front ++ back :=
    (List.prefix_append_right_inj front).2 (List.take_prefix ..)
  have hboundary : (front ++ back).IsBoundary (front ++ back.take context).byteSize :=
    ⟨_, hstop, rfl⟩
  have hbefore : front.IsBoundary (Text.byteSize (front.take (front.length - context))) :=
    ⟨_, hstart, rfl⟩
  constructor
  · exact hbefore.le_byteSize
  · rw [Text.byteSize_append]
    exact Nat.le_add_right ..
  · exact hboundary.le_byteSize
  · exact ⟨_, hstart.trans (List.prefix_append ..), rfl⟩
  · exact ⟨_, List.prefix_append .., rfl⟩
  · exact hboundary

/-- Slicing by places shows what cutting by characters shows. -/
theorem render?_eq (input : Text) (f : Failure) (context : Nat) :
    render? input f context = some (render input f context) := by
  obtain ⟨front, back, rfl, hcut⟩ := Text.exists_cut_eq f.offset input
  have hfront := List.take_append_drop (front.length - context) front
  have hback := List.take_append_drop context back
  have hwindow := Text.slice?_append (front.take (front.length - context))
    (front.drop (front.length - context) ++ back.take context) (back.drop context)
  have hbefore := Text.slice?_append (front.take (front.length - context))
    (front.drop (front.length - context)) back
  rw [← List.append_assoc, hfront, List.append_assoc, hback] at hwindow
  rw [hfront] at hbefore
  simp only [render?, places?_eq, hcut, Option.bind_eq_bind, Option.bind_some, hwindow, hbefore,
    Option.pure_def]
  rw [render, window, hcut]
  rfl

/-- Sending has a result, and it is the report cut out by characters. -/
theorem send?_eq (settings : Settings) (input : Text) (f : Failure) :
    send? settings input f = some (send settings input f) := by
  rw [send?, render?_eq]
  rfl

end TextParser.Report
