import TextParser.Unicode.Category
import TextParser.Unicode.Derived
import TextParser.Unicode.Script
import TextParser.Unicode.WhiteSpace

/-!
Properties of characters and the names they are called by.

Names are loose: case, blanks, hyphens, underscores and a leading `is` do not count, so `Lu`,
`is lu` and `Uppercase_Letter` are one name. A bare name is looked up among the properties, then
among the general categories, then among the scripts; `gc=…` and `sc=…` ask for a category or a
script by its value. Of the scripts and the properties there is a choice. The categories are all
here, but the one of the surrogates, which are no characters, has a name only.
-/

namespace TextParser.Unicode

/-- A property that a character has or has not. -/
inductive Property where
  | any
  | ascii
  | assigned
  | alphabetic
  | lowercase
  | uppercase
  | whiteSpace
  | wordCharacter
  | category (c : Category)
  | categories (g : CategoryGroup)
  | script (s : Script)
  deriving DecidableEq, Repr

/-- Whether `c` is alphabetic. -/
def isAlphabetic (c : Char) : Bool :=
  CategoryGroup.letter.contains c || Category.letterNumber.contains c ||
    Run.holds Derived.otherAlphabetic c

/-- Whether `c` is alphabetic or a number of any kind. -/
def isAlphanumeric (c : Char) : Bool :=
  isAlphabetic c || CategoryGroup.number.contains c

/-- Whether `c` may stand inside a word: alphabetic characters, marks, decimal digits, punctuation
that connects words, and the two joiners. -/
def isWordCharacter (c : Char) : Bool :=
  isAlphabetic c || CategoryGroup.mark.contains c || Category.decimalNumber.contains c ||
    Category.connectorPunctuation.contains c || c == '\u200c' || c == '\u200d'

namespace Property

/-- Whether the character `c` has the property. -/
def contains : Property → Char → Bool
  | any, _ => true
  | ascii, c => c.toNat ≤ 0x7F
  | assigned, c => !Category.unassigned.contains c
  | alphabetic, c => isAlphabetic c
  | lowercase, c => Category.lowercaseLetter.contains c || Run.holds Derived.otherLowercase c
  | uppercase, c => Category.uppercaseLetter.contains c || Run.holds Derived.otherUppercase c
  | whiteSpace, c => isWhiteSpace c
  | wordCharacter, c => isWordCharacter c
  | category k, c => k.contains c
  | categories g, c => g.contains c
  | script s, c => s.contains c

/-! ### Names -/

/-- Drops what does not count in a name: blanks, hyphens, underscores, characters beyond ASCII and
a leading `is`. The name `isc` alone keeps it, lest it become `c`. -/
def looseName (name : List Char) : String :=
  let plain (cs : List Char) : List Char :=
    (cs.filter fun c => c != ' ' && c != '_' && c != '-' && c.toNat ≤ 0x7F).map Char.toLower
  match name with
  | i :: s :: rest =>
    if i.toLower = 'i' ∧ s.toLower = 's' then
      let short := plain rest
      if short = ['c'] then "isc" else String.ofList short
    else String.ofList (plain name)
  | _ => String.ofList (plain name)

/-- Properties that stand for themselves. -/
def plainNames : List (List String × Property) := [
  (["alpha", "alphabetic"], alphabetic),
  (["lower", "lowercase"], lowercase),
  (["upper", "uppercase"], uppercase),
  (["wspace", "space", "whitespace"], whiteSpace)]

/-- The names of the general categories of characters, and of their groups. -/
def categoryNames : List (List String × Property) := [
  (["any"], any), (["ascii"], ascii), (["assigned"], assigned),
  (["l", "letter"], categories .letter),
  (["lc", "casedletter"], categories .casedLetter),
  (["m", "mark", "combiningmark"], categories .mark),
  (["n", "number"], categories .number),
  (["p", "punctuation", "punct"], categories .punctuation),
  (["s", "symbol"], categories .symbol),
  (["z", "separator"], categories .separator),
  (["c", "other"], categories .other),
  (["lu", "uppercaseletter"], category .uppercaseLetter),
  (["ll", "lowercaseletter"], category .lowercaseLetter),
  (["lt", "titlecaseletter"], category .titlecaseLetter),
  (["lm", "modifierletter"], category .modifierLetter),
  (["lo", "otherletter"], category .otherLetter),
  (["mn", "nonspacingmark"], category .nonspacingMark),
  (["mc", "spacingmark"], category .spacingMark),
  (["me", "enclosingmark"], category .enclosingMark),
  (["nd", "decimalnumber", "digit"], category .decimalNumber),
  (["nl", "letternumber"], category .letterNumber),
  (["no", "othernumber"], category .otherNumber),
  (["pc", "connectorpunctuation"], category .connectorPunctuation),
  (["pd", "dashpunctuation"], category .dashPunctuation),
  (["ps", "openpunctuation"], category .openPunctuation),
  (["pe", "closepunctuation"], category .closePunctuation),
  (["pi", "initialpunctuation"], category .initialPunctuation),
  (["pf", "finalpunctuation"], category .finalPunctuation),
  (["po", "otherpunctuation"], category .otherPunctuation),
  (["sm", "mathsymbol"], category .mathSymbol),
  (["sc", "currencysymbol"], category .currencySymbol),
  (["sk", "modifiersymbol"], category .modifierSymbol),
  (["so", "othersymbol"], category .otherSymbol),
  (["zs", "spaceseparator"], category .spaceSeparator),
  (["zl", "lineseparator"], category .lineSeparator),
  (["zp", "paragraphseparator"], category .paragraphSeparator),
  (["cc", "control", "cntrl"], category .control),
  (["cf", "format"], category .format),
  (["co", "privateuse"], category .privateUse),
  (["cn", "unassigned"], category .unassigned)]

/-- The names of some scripts. -/
def scriptNames : List (List String × Property) := [
  (["arab", "arabic"], script .arabic), (["armn", "armenian"], script .armenian),
  (["beng", "bengali"], script .bengali), (["cher", "cherokee"], script .cherokee),
  (["cyrl", "cyrillic"], script .cyrillic), (["deva", "devanagari"], script .devanagari),
  (["ethi", "ethiopic"], script .ethiopic), (["geor", "georgian"], script .georgian),
  (["grek", "greek"], script .greek), (["gujr", "gujarati"], script .gujarati),
  (["guru", "gurmukhi"], script .gurmukhi), (["hani", "han"], script .han),
  (["hang", "hangul"], script .hangul), (["hebr", "hebrew"], script .hebrew),
  (["hira", "hiragana"], script .hiragana), (["knda", "kannada"], script .kannada),
  (["kana", "katakana"], script .katakana), (["khmr", "khmer"], script .khmer),
  (["laoo", "lao"], script .lao), (["latn", "latin"], script .latin),
  (["mlym", "malayalam"], script .malayalam), (["mong", "mongolian"], script .mongolian),
  (["mymr", "myanmar"], script .myanmar), (["sinh", "sinhala"], script .sinhala),
  (["taml", "tamil"], script .tamil), (["telu", "telugu"], script .telugu),
  (["thai"], script .thai), (["tibt", "tibetan"], script .tibetan)]

/-- The property that a table of names gives to `name`. -/
def among? (table : List (List String × Property)) (name : String) : Option Property :=
  (table.find? (·.1.contains name)).map (·.2)

/-- The property called `name`. -/
def named? (name : List Char) : Option Property :=
  let n := looseName name
  among? plainNames n <|> among? categoryNames n <|> among? scriptNames n

/-- Whether `name` is that of the surrogates. -/
def namesSurrogates (name : List Char) : Bool :=
  ["cs", "surrogate"].contains (looseName name)

/-- What may be asked for by `name=value`. -/
inductive Axis where
  | category
  | script
  deriving DecidableEq, Repr

namespace Axis

/-- The axis called `name`. -/
def named? (name : List Char) : Option Axis :=
  let n := looseName name
  if n = "gc" ∨ n = "generalcategory" then some category
  else if n = "sc" ∨ n = "script" then some script
  else none

/-- The property that `value` names on the axis. -/
def value? (a : Axis) (value : List Char) : Option Property :=
  match a with
  | category => among? categoryNames (looseName value)
  | script => among? scriptNames (looseName value)

end Axis

end Property

end TextParser.Unicode
