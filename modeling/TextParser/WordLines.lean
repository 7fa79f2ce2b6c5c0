import TextParser.Report
import TextParser.Words

/-!
The word filter: every line of words is written with bars between the words, every other line is
reported.

    one two three      one | two | three
    one 2              Error: Could not match word (at offset 4)
                         | one 2
                         |     ^

A line ends with a line feed, and with a carriage return before it if there is one. A line that
is not UTF-8 ends the run.
-/

namespace TextParser.WordLines

/-- What a run writes. -/
structure Output where
  standardOutput : String := ""
  standardError : String := ""
  deriving DecidableEq, Repr

namespace Output

/-- One output after another. -/
def append (a b : Output) : Output :=
  ⟨a.standardOutput ++ b.standardOutput, a.standardError ++ b.standardError⟩

instance : Append Output := ⟨append⟩

/-- The exit code of a run: none counts as failed. -/
def exitCode (_ : Output) : UInt32 := 0

end Output

/-! ### Lines -/

/-- The byte of a line feed. -/
def lineFeed : UInt8 := 10

/-- The byte of a carriage return. -/
def carriageReturn : UInt8 := 13

/-- A line without the carriage return at its end. -/
def chop (line : List UInt8) : List UInt8 :=
  if line.getLast? = some carriageReturn then line.dropLast else line

/-- The lines of an input; `line` holds the bytes of the current one, the last one first. What
follows the last line feed is a line if it is not empty. -/
def splitLines (line : List UInt8) : List UInt8 → List (List UInt8)
  | [] => if line = [] then [] else [line.reverse]
  | b :: rest =>
    if b = lineFeed then chop line.reverse :: splitLines [] rest
    else splitLines (b :: line) rest

/-- The text of a line, if it is UTF-8. -/
def decode? (line : List UInt8) : Option Text :=
  line.toByteArray.utf8Decode?.map Array.toList

/-! ### The filter -/

/-- What is said of a line that is not UTF-8. -/
def notUtf8 : String := "error: stream did not contain valid UTF-8\n"

/-- The parser of a line, failures reported to standard error. -/
def lineParser : Parser (List String) := Words.words.reporting {}

/-- What is written for a line. -/
def runLine (line : Text) : Output :=
  let result := lineParser.parse line
  let written :=
    match result.value with
    | .success words _ => " | ".intercalate words ++ "\n"
    | .failure _ => ""
  ⟨written, result.log.standardError⟩

/-- What is written for some lines. -/
def runLines : List (List UInt8) → Output
  | [] => {}
  | line :: more =>
    match decode? line with
    | none => ⟨"", notUtf8⟩
    | some text => runLine text ++ runLines more

/-- What is written for an input. -/
def run (input : List UInt8) : Output := runLines (splitLines [] input)

end TextParser.WordLines
