import TextParser.Regex.Expr
import TextParser.Regex.Reader.Blank

/-!
Escapes: what a backslash makes of the characters after it.

    \.  \-  \#           the character itself
    \t  \n  \a           control characters
    \x41  \u{1F600}      characters by code point
    \d  \W  \pL          classes
    \p{Greek}            properties
    \A  \z  \b{start}    assertions
-/

namespace TextParser.Regex.Reader

/-- The characters that mean something unescaped. -/
def isMeta (c : Char) : Bool :=
  c ∈ ['\\', '.', '+', '*', '?', '(', ')', '|', '[', ']', '{', '}', '^', '$', '#', '&', '-', '~']

/-- Whether a backslash leaves `c` as it is: ASCII but for letters, digits and angle brackets. -/
def isPlainEscape (c : Char) : Bool :=
  isMeta c || (c.toNat ≤ 0x7F && !c.isAlphanum && c != '<' && c != '>')

/-! ### Code points -/

/-- The character with code point `n`. -/
def scalar? (n : Nat) : Option Char :=
  if n.isValidChar then some (Char.ofNat n) else none

/-- Takes `n` hexadecimal digits. -/
def hexDigits (verbose : Bool) : Nat → Text → Except Refusal (Text × Text)
  | 0, rest => .ok ([], rest)
  | _ + 1, [] => refuse .escapeUnfinished (.point [])
  | n + 1, c :: rest =>
    if isHexDigit c then do
      let (digits, left) ← hexDigits verbose n (skipBlank verbose rest)
      return (c :: digits, left)
    else refuse .hexDigitInvalid (.one (c :: rest))

/-- The code point written with just `n` digits. -/
def readHexFixed (verbose : Bool) (n : Nat) (rest : Text) : Except Refusal (Literal × Text) := do
  let (digits, left) ← hexDigits verbose n rest
  match scalar? (hexNumber digits) with
  | some c => return (⟨c, n == 2 && c.toNat ≤ 0xFF⟩, left)
  | none => refuse .hexInvalid (.between rest left)

/-- The code point written between braces, the first one at the front of `brace`. -/
def readHexBraced (verbose : Bool) (brace : Text) : Except Refusal (Literal × Text) :=
  let inside := brace.drop 1
  let (digits, left) := gather verbose isHexDigit inside
  match left with
  | [] => refuse .escapeUnfinished (.between brace [])
  | '}' :: after =>
    let next := skipBlank verbose after
    if digits = [] then refuse .hexEmpty (.between brace next)
    else match scalar? (hexNumber digits) with
      | some c => .ok (⟨c, false⟩, next)
      | none => refuse .hexInvalid (.between inside left)
  | _ => refuse .hexDigitInvalid (.one left)

/-- A code point in hexadecimal, after the letter that tells how many digits it has. -/
def readHex (verbose : Bool) (digits : Nat) (rest : Text) : Except Refusal (Literal × Text) :=
  match skipBlank verbose rest with
  | [] => refuse .escapeUnfinished (.point [])
  | '{' :: more => readHexBraced verbose ('{' :: more)
  | next => readHexFixed verbose digits next

/-! ### Properties -/

/-- Cuts a text around the first place where `mark` stands. -/
def splitAt? (mark : Text) : Text → Option (Text × Text)
  | [] => none
  | c :: rest =>
    match Text.dropStart? mark (c :: rest) with
    | some after => some ([], after)
    | none => (splitAt? mark rest).map fun (before, after) => (c :: before, after)

/-- What is asked for between the braces of a property. With `!=` between a name and a value it is
the same as with `=` or a colon. -/
def propertyQuery (inside : Text) : PropertyQuery :=
  match splitAt? ['!', '='] inside with
  | some (name, value) => .valued name value
  | none =>
    match splitAt? [':'] inside with
    | some (name, value) => .valued name value
    | none =>
      match splitAt? ['='] inside with
      | some (name, value) => .valued name value
      | none => .named inside

/-- A property after `\p` or `\P`, by one letter or between braces. -/
def readProperty (verbose negated : Bool) (rest : Text) : Except Refusal (Atom × Text) :=
  match skipBlank verbose rest with
  | [] => refuse .escapeUnfinished (.point [])
  | '{' :: more =>
    match gather verbose (· != '}') more with
    | (_, []) => refuse .escapeUnfinished (.point [])
    | (inside, _ :: next) => .ok (.property (propertyQuery inside) negated, next)
  | c :: more =>
    if c = '\\' then refuse .propertyInvalid (.one (c :: more))
    else .ok (.property (.named [c]) negated, skipBlank verbose more)

/-! ### Word boundaries -/

/-- Whether `c` may stand in the name of a word boundary. -/
def isBoundaryChar (c : Char) : Bool := c.isAlpha || c == '-'

/-- The word boundary called `name`. -/
def boundaryNamed? (name : Text) : Option WordSide :=
  if name = "start".toList then some .start
  else if name = "end".toList then some .stop
  else if name = "start-half".toList then some .startHalf
  else if name = "end-half".toList then some .stopHalf
  else none

/-- A word boundary after `\b`, which stands at the front of `start`. A brace may open the name of
a special one; if no name follows it, it is left for a repetition. -/
def readBoundary (verbose : Bool) (start rest : Text) : Except Refusal (WordSide × Text) :=
  match rest with
  | '{' :: more =>
    match skipBlank verbose more with
    | [] => refuse .boundaryUnfinished (.between start [])
    | c :: inside =>
      if isBoundaryChar c then
        let (name, left) := gather verbose isBoundaryChar (c :: inside)
        match left with
        | '}' :: next =>
          match boundaryNamed? name with
          | some side => .ok (side, next)
          | none => refuse .boundaryUnknown (.between (c :: inside) left)
        | _ => refuse .boundaryUnclosed (.between rest left)
      else .ok (.boundary, rest)
  | _ => .ok (.boundary, rest)

/-! ### All escapes -/

/-- The character that a letter after a backslash stands for. -/
def controlNamed? : Char → Option Char
  | 'a' => some '\x07'
  | 'f' => some '\x0c'
  | 't' => some '\t'
  | 'n' => some '\n'
  | 'r' => some '\r'
  | 'v' => some '\x0b'
  | _ => none

/-- The short class that a letter after a backslash stands for. -/
def shortNamed? : Char → Option Atom
  | 'd' => some (.short .digit false)
  | 's' => some (.short .space false)
  | 'w' => some (.short .word false)
  | 'D' => some (.short .digit true)
  | 'S' => some (.short .space true)
  | 'W' => some (.short .word true)
  | _ => none

/-- The assertion that a letter or a bracket after a backslash stands for. -/
def assertionNamed? : Char → Option Escape
  | 'A' => some .textStart
  | 'z' => some .textEnd
  | 'B' => some (.word .inside)
  | '<' => some (.word .start)
  | '>' => some (.word .stop)
  | _ => none

/-- What a single character after a backslash stands for. -/
def escaped? (c : Char) : Option Escape :=
  if isPlainEscape c then some (.atom (.literal ⟨c, false⟩))
  else ((shortNamed? c).map .atom).or <|
    (assertionNamed? c).or <| (controlNamed? c).map fun d => .atom (.literal ⟨d, false⟩)

/-- The escape at the front of `start`, whose first character is the backslash. -/
def readEscape (verbose : Bool) (start : Text) : Except Refusal (Escape × Text) :=
  match start.drop 1 with
  | [] => refuse .escapeUnfinished (.between start [])
  | c :: rest =>
    let hex (digits : Nat) : Except Refusal (Escape × Text) := do
      let (l, left) ← readHex verbose digits rest
      return (.atom (.literal l), left)
    let property (negated : Bool) : Except Refusal (Escape × Text) := do
      let (a, left) ← readProperty verbose negated rest
      return (.atom a, left)
    match c with
    | 'x' => hex 2
    | 'u' => hex 4
    | 'U' => hex 8
    | 'p' => property false
    | 'P' => property true
    | 'b' => do
      let (side, left) ← readBoundary verbose start rest
      return (.word side, left)
    | _ =>
      if c.isDigit then refuse .backreference (.between start rest)
      else match escaped? c with
        | some e => .ok (e, rest)
        | none => refuse .escapeUnknown (.between start rest)

end TextParser.Regex.Reader
