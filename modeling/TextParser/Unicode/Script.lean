import TextParser.Unicode.Script.Runs

/-!
Scripts: the writing systems that a character may belong to.
-/

namespace TextParser.Unicode

/-- The scripts in wide use. -/
inductive Script where
  | arabic | armenian | bengali | cherokee | cyrillic | devanagari | ethiopic | georgian | greek
  | gujarati | gurmukhi | han | hangul | hebrew | hiragana | kannada | katakana | khmer | lao
  | latin | malayalam | mongolian | myanmar | sinhala | tamil | telugu | thai | tibetan
  deriving DecidableEq, Repr

namespace Script

/-- The table of a script. -/
def runs : Script → List Run
  | arabic => ScriptRuns.arabic
  | armenian => ScriptRuns.armenian
  | bengali => ScriptRuns.bengali
  | cherokee => ScriptRuns.cherokee
  | cyrillic => ScriptRuns.cyrillic
  | devanagari => ScriptRuns.devanagari
  | ethiopic => ScriptRuns.ethiopic
  | georgian => ScriptRuns.georgian
  | greek => ScriptRuns.greek
  | gujarati => ScriptRuns.gujarati
  | gurmukhi => ScriptRuns.gurmukhi
  | han => ScriptRuns.han
  | hangul => ScriptRuns.hangul
  | hebrew => ScriptRuns.hebrew
  | hiragana => ScriptRuns.hiragana
  | kannada => ScriptRuns.kannada
  | katakana => ScriptRuns.katakana
  | khmer => ScriptRuns.khmer
  | lao => ScriptRuns.lao
  | latin => ScriptRuns.latin
  | malayalam => ScriptRuns.malayalam
  | mongolian => ScriptRuns.mongolian
  | myanmar => ScriptRuns.myanmar
  | sinhala => ScriptRuns.sinhala
  | tamil => ScriptRuns.tamil
  | telugu => ScriptRuns.telugu
  | thai => ScriptRuns.thai
  | tibetan => ScriptRuns.tibetan

/-- Whether the character `c` belongs to the script. -/
def contains (s : Script) (c : Char) : Bool := Run.holds s.runs c

end Script

end TextParser.Unicode
