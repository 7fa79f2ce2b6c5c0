import TextParser.WordLines

/-!
The word filter as a program: standard input is filtered to standard output, and reports go to
standard error.
-/

/-- Filters standard input. -/
def main : IO UInt32 := do
  let input ← (← IO.getStdin).readBinToEnd
  let output := TextParser.WordLines.run input.toList
  (← IO.getStdout).putStr output.standardOutput
  (← IO.getStderr).putStr output.standardError
  return output.exitCode
