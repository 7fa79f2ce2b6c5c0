import TextParser.Unicode.Category.Letter
import TextParser.Unicode.Category.Mark
import TextParser.Unicode.Category.Number
import TextParser.Unicode.Category.Punctuation
import TextParser.Unicode.Category.Symbol
import TextParser.Unicode.Category.Separator
import TextParser.Unicode.Category.Control

/-!
General categories. Every character belongs to exactly one; the tables list all of them but the
unassigned, which are what the tables leave over.
-/

namespace TextParser.Unicode

/-- The general category of a character. -/
inductive Category where
  | uppercaseLetter | lowercaseLetter | titlecaseLetter | modifierLetter | otherLetter
  | nonspacingMark | spacingMark | enclosingMark
  | decimalNumber | letterNumber | otherNumber
  | connectorPunctuation | dashPunctuation | openPunctuation | closePunctuation
  | initialPunctuation | finalPunctuation | otherPunctuation
  | mathSymbol | currencySymbol | modifierSymbol | otherSymbol
  | spaceSeparator | lineSeparator | paragraphSeparator
  | control | format | surrogate | privateUse | unassigned
  deriving DecidableEq, Repr

namespace Category

/-- The categories that have a table. -/
def tabled : List Category := [
  uppercaseLetter, lowercaseLetter, titlecaseLetter, modifierLetter, otherLetter,
  nonspacingMark, spacingMark, enclosingMark,
  decimalNumber, letterNumber, otherNumber,
  connectorPunctuation, dashPunctuation, openPunctuation, closePunctuation,
  initialPunctuation, finalPunctuation, otherPunctuation,
  mathSymbol, currencySymbol, modifierSymbol, otherSymbol,
  spaceSeparator, lineSeparator, paragraphSeparator,
  control, format, surrogate, privateUse]

/-- The table of a category, empty for the unassigned. -/
def runs : Category → List Run
  | uppercaseLetter => Letter.uppercase
  | lowercaseLetter => Letter.lowercase
  | titlecaseLetter => Letter.titlecase
  | modifierLetter => Letter.modifier
  | otherLetter => Letter.other
  | nonspacingMark => Mark.nonspacing
  | spacingMark => Mark.spacing
  | enclosingMark => Mark.enclosing
  | decimalNumber => Number.decimal
  | letterNumber => Number.letter
  | otherNumber => Number.other
  | connectorPunctuation => Punctuation.connector
  | dashPunctuation => Punctuation.dash
  | openPunctuation => Punctuation.opening
  | closePunctuation => Punctuation.closing
  | initialPunctuation => Punctuation.initial
  | finalPunctuation => Punctuation.final
  | otherPunctuation => Punctuation.other
  | mathSymbol => Symbol.math
  | currencySymbol => Symbol.currency
  | modifierSymbol => Symbol.modifier
  | otherSymbol => Symbol.other
  | spaceSeparator => Separator.space
  | lineSeparator => Separator.line
  | paragraphSeparator => Separator.paragraph
  | control => Control.control
  | format => Control.format
  | surrogate => Control.surrogate
  | privateUse => Control.privateUse
  | unassigned => []

/-- Whether the character `c` is of the category. -/
def contains : Category → Char → Bool
  | unassigned, c => tabled.all fun k => !Run.holds k.runs c
  | k, c => Run.holds k.runs c

end Category

/-- The groups of categories that share their first letter, and the cased letters. -/
inductive CategoryGroup where
  | letter | casedLetter | mark | number | punctuation | symbol | separator | other
  deriving DecidableEq, Repr

namespace CategoryGroup

/-- The categories of a group. -/
def members : CategoryGroup → List Category
  | letter => [.uppercaseLetter, .lowercaseLetter, .titlecaseLetter, .modifierLetter, .otherLetter]
  | casedLetter => [.uppercaseLetter, .lowercaseLetter, .titlecaseLetter]
  | mark => [.nonspacingMark, .spacingMark, .enclosingMark]
  | number => [.decimalNumber, .letterNumber, .otherNumber]
  | punctuation => [.connectorPunctuation, .dashPunctuation, .openPunctuation, .closePunctuation,
      .initialPunctuation, .finalPunctuation, .otherPunctuation]
  | symbol => [.mathSymbol, .currencySymbol, .modifierSymbol, .otherSymbol]
  | separator => [.spaceSeparator, .lineSeparator, .paragraphSeparator]
  | other => [.control, .format, .surrogate, .privateUse, .unassigned]

/-- Whether the character `c` is of one of the group's categories. -/
def contains (g : CategoryGroup) (c : Char) : Bool :=
  g.members.any (·.contains c)

end CategoryGroup

end TextParser.Unicode
