import TextParser.Regex.Refusal
import TextParser.Unicode.WhiteSpace

/-!
Blanks between the parts of an expression. They count like any other character unless the switch
`x` is on; then white space is skipped, and so is a comment from `#` to the end of its line.

    a  b # comment        read as  ab
-/

namespace TextParser.Regex.Reader

open Unicode

/-- Skips blanks and takes characters that satisfy `p`, up to the first that is neither: the
characters taken and what is left. `comment` tells that a comment is open. -/
def gatherVerbose (p : Char → Bool) : Bool → Text → Text × Text
  | _, [] => ([], [])
  | true, c :: rest => gatherVerbose p (c != '\n') rest
  | false, c :: rest =>
    if isWhiteSpace c then gatherVerbose p false rest
    else if c = '#' then gatherVerbose p true rest
    else if p c then
      let (taken, left) := gatherVerbose p false rest
      (c :: taken, left)
    else ([], c :: rest)

/-- Takes characters that satisfy `p`; if `verbose`, blanks before and between them are skipped. -/
def gather (verbose : Bool) (p : Char → Bool) (rest : Text) : Text × Text :=
  if verbose then gatherVerbose p false rest else (rest.takeWhile p, rest.dropWhile p)

/-- Skips blanks if `verbose`. -/
def skipBlank (verbose : Bool) (rest : Text) : Text :=
  (gather verbose (fun _ => false) rest).2

/-- The character after the first of `rest` that is told from a blank: if `verbose`, the first
that is neither white space nor the mark of a comment. -/
def peekPast (verbose : Bool) : Text → Option Char
  | [] => none
  | _ :: rest =>
    if verbose then
      (go false rest).or rest.head?
    else rest.head?
where
  /-- Looks past white space and one mark of a comment. -/
  go : Bool → Text → Option Char
    | _, [] => none
    | comment, c :: rest =>
      if isWhiteSpace c then go comment rest
      else if !comment && c == '#' then go true rest
      else some c

/-! ### Numbers -/

/-- The value of a decimal digit. -/
def digitValue (c : Char) : Nat := c.toNat - '0'.toNat

/-- The value of a hexadecimal digit. -/
def hexValue (c : Char) : Nat :=
  if c.isDigit then digitValue c else c.toLower.toNat - 'a'.toNat + 10

/-- Whether `c` is a hexadecimal digit. -/
def isHexDigit (c : Char) : Bool :=
  c.isDigit || ('a' ≤ c && c ≤ 'f') || ('A' ≤ c && c ≤ 'F')

/-- The number written with hexadecimal digits. -/
def hexNumber (digits : Text) : Nat :=
  digits.foldl (fun n c => 16 * n + hexValue c) 0

/-- The number written with decimal digits. -/
def decimalNumber (digits : Text) : Nat :=
  digits.foldl (fun n c => 10 * n + digitValue c) 0

end TextParser.Regex.Reader
