import TextParser.Parser

/-!
Reports: a failure shown in the text it happened in.

    Error: Could not match word (at offset 8)
      | two word5 here
      |         ^

The window reaches some characters to either side of the place; controls are shown as blanks, so
that the caret stays in line.
-/

universe u

namespace TextParser

namespace Report

/-- Where reports go. -/
inductive Sink where
  | standardError
  | log
  deriving DecidableEq, Repr

/-- How failures are reported: how many characters the window has on each side, and where the
report goes. -/
structure Settings where
  context : Nat := 10
  sink : Sink := .standardError
  deriving DecidableEq, Repr

/-- The name of a sink. -/
def Sink.debug : Sink → String
  | .standardError => "Stderr"
  | .log => "Tracing"

/-- The settings with their fields named. -/
def Settings.debug (s : Settings) : String :=
  s!"Config \x7b context: {s.context}, sink: {s.sink.debug} \x7d"

/-- The characters shown before and after the place of a failure. -/
def window (input : Text) (offset context : Nat) : Text × Text :=
  let (before, after) := Text.cut offset input
  (before.takeLast context, after.take context)

/-- What is shown for a character. -/
def shown (c : Char) : Char := if Text.isControl c then ' ' else c

/-- The report of a failure in `input`. -/
def render (input : Text) (f : Failure) (context : Nat) : String :=
  let (before, after) := window input f.offset context
  let line := String.ofList ((before ++ after).map shown)
  let marker := "".pushn ' ' before.length
  s!"{f.message} (at offset {f.offset})\n  | {line}\n  | {marker}^"

/-- Sends a report of a failure in `input`. -/
def send (settings : Settings) (input : Text) (f : Failure) : Logged PUnit := do
  Logged.record (.reporting f.offset)
  let report := render input f settings.context
  match settings.sink with
  | .standardError => Logged.record (.printed report)
  | .log => Logged.record (.warning report f.offset)

end Report

/-- Reports the failures of `p`, and leaves what comes of it as it is. -/
def Parser.reporting {α : Type u} (p : Parser α) (settings : Report.Settings) : Parser α where
  parse input := do
    let parsed ← p.parse input
    match parsed with
    | .success _ _ => return parsed
    | .failure f => do
      Report.send settings input f
      return parsed

end TextParser
