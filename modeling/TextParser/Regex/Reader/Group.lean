import TextParser.Regex.Expr
import TextParser.Regex.Reader.Blank

/-!
The opening of a group: what follows a parenthesis.

    (…)             a group
    (?P<name>…)     a group with a name, also (?<name>…)
    (?i-s:…)        a group with switches
    (?i-s)          switches for the rest of the group around them
-/

namespace TextParser.Regex.Reader

open Unicode

/-- What an opening parenthesis turns out to start. -/
inductive Opening where
  | switch (s : Switches)
  | group (s : Switches)
  | named (name : Text) (span : Span)
  deriving DecidableEq, Repr

/-! ### Switches -/

/-- A character among the switches: a flag, or the hyphen that turns off the flags after it. -/
inductive SwitchMark where
  | flag (f : Flag)
  | negation
  deriving DecidableEq, Repr

/-- The switches that marks ask for. -/
def switchesOf : Bool → List SwitchMark → Switches
  | _, [] => []
  | _, .negation :: more => switchesOf false more
  | on, .flag f :: more => (f, on) :: switchesOf on more

/-- Reads switches up to the colon or parenthesis that ends them; `seen` are the marks read so far
with their places, the last one first. No mark may stand twice, and the hyphen not at the end. -/
def readSwitches (seen : List (SwitchMark × Span)) : Text → Except Refusal (Switches × Text)
  | [] => refuse .flagUnfinished (.point [])
  | c :: rest =>
    if c = ':' ∨ c = ')' then
      match seen with
      | (.negation, span) :: _ => refuse .negationDangling span
      | _ => .ok (switchesOf true (seen.reverse.map (·.1)), c :: rest)
    else
      let span := Span.one (c :: rest)
      if c = '-' then
        match seen.lookup .negation with
        | some earlier => .error ⟨.negationRepeated, span, some earlier⟩
        | none => readSwitches ((.negation, span) :: seen) rest
      else
        match Flag.ofChar? c with
        | none => refuse .flagUnknown span
        | some f =>
          match seen.lookup (.flag f) with
          | some earlier => .error ⟨.flagRepeated, span, some earlier⟩
          | none => readSwitches ((.flag f, span) :: seen) rest

/-! ### Names -/

/-- Whether `c` may stand in the name of a group, or at its front if `first`. -/
def isNameChar (first : Bool) (c : Char) : Bool :=
  if first then c == '_' || isAlphabetic c
  else c == '_' || c == '.' || c == '[' || c == ']' || isAlphanumeric c

/-- Reads a name up to its closing bracket: the name, and what is left from the bracket on. -/
def readName (first : Bool) : Text → Except Refusal (Text × Text)
  | [] => refuse .nameUnfinished (.point [])
  | c :: rest =>
    if c = '>' then .ok ([], c :: rest)
    else if isNameChar first c then do
      let (name, left) ← readName false rest
      return (c :: name, left)
    else refuse .nameInvalid (.one (c :: rest))

/-- Reads the name of a group. -/
def readNamed (rest : Text) : Except Refusal (Opening × Text) := do
  let (name, left) ← readName true rest
  if name = [] then refuse .nameEmpty (.point rest)
  else return (.named name (.between rest left), left.drop 1)

/-! ### Openings -/

/-- The beginnings that would start a look-around. -/
def lookArounds : List Text := [['?', '='], ['?', '!'], ['?', '<', '='], ['?', '<', '!']]

/-- The beginnings of a name. -/
def nameMarks : List Text := [['?', 'P', '<'], ['?', '<']]

/-- Reads the opening of a group; `start` begins with its parenthesis. -/
def readOpening (verbose : Bool) (start : Text) : Except Refusal (Opening × Text) :=
  let inside := skipBlank verbose (start.drop 1)
  match lookArounds.findSome? (Text.dropStart? · inside) with
  | some left => refuse .lookAround (.between start left)
  | none =>
    match nameMarks.findSome? (Text.dropStart? · inside) with
    | some rest => readNamed rest
    | none =>
      match inside with
      | ['?'] => refuse .groupUnclosed (.one start)
      | '?' :: rest => do
        let (switches, left) ← readSwitches [] rest
        match left with
        | ')' :: next =>
          if rest.head? = some ')' then refuse .operandMissing (.point inside)
          else return (.switch switches, next)
        | _ => return (.group switches, left.drop 1)
      | _ => .ok (.group [], inside)

end TextParser.Regex.Reader
