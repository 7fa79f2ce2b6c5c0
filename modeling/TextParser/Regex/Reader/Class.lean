import TextParser.Regex.Reader.Escape

/-!
Character classes between brackets.

    [a-z_]        ranges and single characters
    [^0-9]        all but these
    []a] [-a]     a bracket or hyphens at the front stand for themselves
    [\d\p{Greek}] classes inside classes
    [[:alpha:]]   named ASCII classes
    [\w&&[^_]]    && intersection, -- difference, ~~ symmetric difference, from left to right
-/

namespace TextParser.Regex.Reader

/-- A class whose closing bracket has not been read: where it starts, its opening part, what is
read so far, and the operator that waits for its right side. -/
structure OpenClass where
  startLeft : Nat
  opening : Span
  negated : Bool
  waiting : Option (SetOperator × ClassExpr)
  items : ClassExpr
  deriving DecidableEq, Repr

namespace OpenClass

/-- Adds an item. -/
def add (o : OpenClass) (e : ClassExpr) : OpenClass :=
  { o with items := if o.items = .empty then e else .union o.items e }

/-- What is read so far, the waiting operator applied. -/
def result (o : OpenClass) : ClassExpr :=
  match o.waiting with
  | some (op, left) => .combine op left o.items
  | none => o.items

/-- Starts the right side of an operator. -/
def operate (o : OpenClass) (op : SetOperator) : OpenClass :=
  { o with waiting := some (op, o.result), items := .empty }

/-- The class, closed in front of `rest`. -/
def close (o : OpenClass) (rest : Text) : ClassExpr × Span :=
  (o.result, ⟨o.startLeft, rest.length⟩)

end OpenClass

/-! ### The opening -/

/-- Reads the characters at the front of a class that stand for themselves there: hyphens, or one
closing bracket. -/
def readLead (verbose : Bool) (start : Text) (negated : Bool) (rest : Text) :
    Except Refusal (OpenClass × Text) :=
  let opened (items : ClassExpr) (left : Text) : OpenClass × Text :=
    (⟨start.length, .between start left, negated, none, items⟩, left)
  match gather verbose (· == '-') rest with
  | ([], ']' :: more) =>
    match skipBlank verbose more with
    | [] => refuse .classUnclosed (.between start [])
    | left => .ok (opened (.atom (.literal ⟨']', false⟩) (.one rest)) left)
  | ([], left) => .ok (opened .empty left)
  | (_, []) => refuse .classUnclosed (.point start)
  | (_, left) => .ok (opened (.atom (.literal ⟨'-', false⟩) (.one rest)) left)

/-- Reads the opening of a class; `start` begins with its bracket. -/
def openClass (verbose : Bool) (start : Text) : Except Refusal (OpenClass × Text) :=
  match skipBlank verbose (start.drop 1) with
  | [] => refuse .classUnclosed (.between start [])
  | '^' :: rest =>
    match skipBlank verbose rest with
    | [] => refuse .classUnclosed (.between start [])
    | left => readLead verbose start true left
  | left => readLead verbose start false left

/-! ### Items -/

/-- The ASCII class called `name`. -/
def asciiNamed? (name : Text) : Option AsciiClass :=
  match String.ofList name with
  | "alnum" => some .alnum
  | "alpha" => some .alpha
  | "ascii" => some .ascii
  | "blank" => some .blank
  | "cntrl" => some .cntrl
  | "digit" => some .digit
  | "graph" => some .graph
  | "lower" => some .lower
  | "print" => some .print
  | "punct" => some .punct
  | "space" => some .space
  | "upper" => some .upper
  | "word" => some .word
  | "xdigit" => some .xdigit
  | _ => none

/-- A named ASCII class at the front of `start`. What merely begins like one is none, and its
bracket opens a class inside the class. -/
def readAscii? (start : Text) : Option (ClassExpr × Text) :=
  match start with
  | '[' :: ':' :: rest =>
    let negated := rest.head? == some '^'
    let inside := if negated then rest.drop 1 else rest
    match inside.dropWhile (· != ':') with
    | ':' :: ']' :: next =>
      (asciiNamed? (inside.takeWhile (· != ':'))).map fun c =>
        (.ascii c negated (.between start next), next)
    | _ => none
  | _ => none

/-- One item: an escape or a character. -/
def readItem (verbose : Bool) (rest : Text) : Except Refusal (Escape × Text) :=
  match rest with
  | [] => refuse .escapeUnfinished (.point [])
  | c :: more =>
    if c = '\\' then readEscape verbose rest
    else .ok (.atom (.literal ⟨c, false⟩), more)

/-- An item of a class by itself; assertions cannot be one. -/
def itemAlone (e : Escape) (span : Span) : Except Refusal ClassExpr :=
  match e with
  | .atom a => .ok (.atom a span)
  | _ => refuse .classItemInvalid span

/-- An end of a range, which has to be one character. -/
def rangeEnd (e : Escape) (span : Span) : Except Refusal Literal :=
  match e with
  | .atom (.literal l) => .ok l
  | _ => refuse .classRangeNotLiteral span

/-- The range between two items. -/
def rangeBetween (first : Escape) (firstSpan : Span) (last : Escape) (lastSpan : Span) :
    Except Refusal ClassExpr := do
  let a ← rangeEnd first firstSpan
  let b ← rangeEnd last lastSpan
  if a.char ≤ b.char then return .range a firstSpan b lastSpan
  else refuse .classRangeReversed ⟨firstSpan.startLeft, lastSpan.stopLeft⟩

/-- Whether the hyphen at the front of `rest` makes a range. In front of a closing bracket or of
another hyphen it does not. -/
def startsRange (verbose : Bool) (rest : Text) : Bool :=
  let past := peekPast verbose rest
  rest.head? == some '-' && past != some ']' && past != some '-'

/-- One item or a range of them, in a class whose opening part is at `opening`. -/
def readRange (verbose : Bool) (opening : Span) (rest : Text) :
    Except Refusal (ClassExpr × Text) := do
  let (first, after) ← readItem verbose rest
  let firstSpan := Span.between rest after
  match skipBlank verbose after with
  | [] => refuse .classUnclosed opening
  | left =>
    if startsRange verbose left then
      match skipBlank verbose (left.drop 1) with
      | [] => refuse .classUnclosed opening
      | next => do
        let (last, after) ← readItem verbose next
        let range ← rangeBetween first firstSpan last (.between next after)
        return (range, after)
    else do
      let item ← itemAlone first firstSpan
      return (item, left)

/-! ### Classes -/

/-- An operator at the front of `rest`. -/
def readOperator? : Text → Option (SetOperator × Text)
  | '&' :: '&' :: rest => some (.intersection, rest)
  | '-' :: '-' :: rest => some (.difference, rest)
  | '~' :: '~' :: rest => some (.symmetricDifference, rest)
  | _ => none

/-- Reads on inside the class `o`, itself inside the classes `outer`, to the end of the outermost
one. Every round takes a character, so the length of the text bounds the rounds. -/
def readClassBody (verbose : Bool) :
    Nat → OpenClass → List OpenClass → Text → Except Refusal (Expr × Text)
  | 0, o, _, _ => refuse .classUnclosed o.opening
  | fuel + 1, o, outer, rest =>
    match skipBlank verbose rest with
    | [] => refuse .classUnclosed o.opening
    | ']' :: more =>
      let (set, span) := o.close more
      match outer with
      | [] => .ok (.bracketed o.negated set span, more)
      | p :: outer => readClassBody verbose fuel (p.add (.bracketed o.negated set span)) outer more
    | '[' :: more =>
      match readAscii? ('[' :: more) with
      | some (item, next) => readClassBody verbose fuel (o.add item) outer next
      | none => do
        let (inner, next) ← openClass verbose ('[' :: more)
        readClassBody verbose fuel inner (o :: outer) next
    | left =>
      match readOperator? left with
      | some (op, next) => readClassBody verbose fuel (o.operate op) outer next
      | none => do
        let (item, next) ← readRange verbose o.opening left
        readClassBody verbose fuel (o.add item) outer next

/-- The class at the front of `start`, which begins with its bracket. -/
def readClass (verbose : Bool) (start : Text) : Except Refusal (Expr × Text) := do
  let (o, rest) ← openClass verbose start
  readClassBody verbose start.length o [] rest

end TextParser.Regex.Reader
