import TextParser.Regex.Pattern
import TextParser.Regex.Resources

/-!
What an expression means: its pattern, under the flags in force where each part stands.

Flags are carried from left to right; a group gives back the flags it was entered with. The sets of
properties are looked up in `k`. Parts that cannot be given a meaning refuse the expression, the
leftmost first: unknown properties, and without Unicode whatever could match half of a character.
-/

namespace TextParser.Regex

/-! ### Characters -/

/-- Closes a set under the case variants that `f` asks for. -/
def Flags.foldCase (f : Flags) (s : CharSet) : CharSet :=
  if f.caseless then (if f.unicode then .folded s else .asciiFolded s) else s

/-- The character of a literal at `span`. A byte beyond ASCII is no character of its own. -/
def Literal.scalar (l : Literal) (span : Span) (f : Flags) : Except Refusal Char :=
  if f.unicode || !l.isByte || l.char.toNat ≤ 0x7F then .ok l.char
  else refuse .invalidUtf8 span

/-- The character of a literal in a class, which without Unicode has to be ASCII. -/
def Literal.inClass (l : Literal) (span : Span) (f : Flags) : Except Refusal Char := do
  let c ← l.scalar span f
  if f.unicode || c.toNat ≤ 0x7F then .ok c else refuse .unicodeNotAllowed span

/-! ### Classes -/

/-- The set of a short class. Without Unicode it is one of ASCII and cannot be negated, for its
complement would hold bytes. -/
def ShortClass.meaning (c : ShortClass) (negated : Bool) (span : Span) (f : Flags) :
    Except Refusal CharSet :=
  let base : CharSet :=
    match c, f.unicode with
    | .digit, true => .digit
    | .space, true => .space
    | .word, true => .word
    | .digit, false => .asciiDigit
    | .space, false => .asciiSpace
    | .word, false => .asciiWord
  if !negated then .ok base
  else if f.unicode then .ok (.complement base)
  else refuse .invalidUtf8 span

/-- The set of a named ASCII class. -/
def AsciiClass.set : AsciiClass → CharSet
  | .alnum => .ofRanges [('0', '9'), ('A', 'Z'), ('a', 'z')]
  | .alpha => .ofRanges [('A', 'Z'), ('a', 'z')]
  | .ascii => .range '\x00' '\x7f'
  | .blank => .ofRanges [('\t', '\t'), (' ', ' ')]
  | .cntrl => .ofRanges [('\x00', '\x1f'), ('\x7f', '\x7f')]
  | .digit => .range '0' '9'
  | .graph => .range '!' '~'
  | .lower => .range 'a' 'z'
  | .print => .range ' ' '~'
  | .punct => .ofRanges [('!', '/'), (':', '@'), ('[', (Char.ofNat 0x60)), ('\x7b', '~')]
  | .space => .asciiSpace
  | .upper => .range 'A' 'Z'
  | .word => .asciiWord
  | .xdigit => .ofRanges [('0', '9'), ('A', 'F'), ('a', 'f')]

/-- Closes a set under case and then, if asked to, turns it round. Without Unicode only sets of
ASCII characters may come out. -/
def finishSet (s : CharSet) (negated : Bool) (span : Span) (f : Flags) : Except Refusal CharSet :=
  let closed := f.foldCase s
  let s := if negated then .complement closed else closed
  if f.unicode || s.isAscii then .ok s else refuse .invalidUtf8 span

/-- The set that a query asks for. -/
def PropertyQuery.set (k : Properties) (q : PropertyQuery) (span : Span) : Except Refusal CharSet :=
  match k q with
  | .ok s => .ok s
  | .error .name => refuse .propertyUnknown span
  | .error .value => refuse .propertyValueUnknown span

/-- The set of a property, which there is with Unicode only. -/
def PropertyQuery.meaning (k : Properties) (q : PropertyQuery) (negated : Bool) (span : Span)
    (f : Flags) : Except Refusal CharSet := do
  if f.unicode then
    let s ← q.set k span
    finishSet s negated span f
  else refuse .unicodeNotAllowed span

/-- The set of what stands for one character. -/
def Atom.meaning (k : Properties) (a : Atom) (span : Span) (f : Flags) : Except Refusal CharSet :=
  match a with
  | .literal l => do
    let c ← l.scalar span f
    return f.foldCase (.single c)
  | .short c negated => c.meaning negated span f
  | .property q negated => q.meaning k negated span f

/-- The same in a class, where a literal is closed under case with the class as a whole. -/
def Atom.inClass (k : Properties) (a : Atom) (span : Span) (f : Flags) : Except Refusal CharSet :=
  match a with
  | .literal l => do
    let c ← l.inClass span f
    return .single c
  | .short c negated => c.meaning negated span f
  | .property q negated => q.meaning k negated span f

/-- What an operator makes of two sets. -/
def SetOperator.apply : SetOperator → CharSet → CharSet → CharSet
  | .intersection, a, b => .inter a b
  | .difference, a, b => .diff a b
  | .symmetricDifference, a, b => .symmDiff a b

/-- The set of what stands between brackets. The two sides of an operator are closed under case
before it is applied. -/
def ClassExpr.meaning (k : Properties) (f : Flags) : ClassExpr → Except Refusal CharSet
  | .empty => .ok .empty
  | .atom a span => a.inClass k span f
  | .range first firstSpan last lastSpan => do
    let a ← first.inClass firstSpan f
    let b ← last.inClass lastSpan f
    return .range a b
  | .ascii c negated span => finishSet c.set negated span f
  | .bracketed negated inner span => do
    let s ← inner.meaning k f
    finishSet s negated span f
  | .union a b => do
    let s ← a.meaning k f
    let t ← b.meaning k f
    return .union s t
  | .combine op a b => do
    let s ← a.meaning k f
    let t ← b.meaning k f
    return op.apply (f.foldCase s) (f.foldCase t)

/-! ### Expressions -/

/-- What `.` matches: a character that does not end a line, or any at all. -/
def dotMeaning (span : Span) (f : Flags) : Except Refusal Pattern :=
  if !f.unicode then refuse .invalidUtf8 span
  else if f.dotAll then .ok (.set .all)
  else if f.crlf then .ok (.set (.complement (.ofRanges [('\n', '\n'), ('\r', '\r')])))
  else .ok (.set (.complement (.single '\n')))

/-- What `^` asserts. -/
def Flags.start (f : Flags) : Look :=
  if f.multiLine then (if f.crlf then .crlfStart else .lineStart) else .textStart

/-- What `$` asserts. -/
def Flags.stop (f : Flags) : Look :=
  if f.multiLine then (if f.crlf then .crlfEnd else .lineEnd) else .textEnd

/-- The pattern of an expression entered with the flags `f`, and the flags after it. -/
def Expr.meaning (k : Properties) (f : Flags) : Expr → Except Refusal (Pattern × Flags)
  | .empty => .ok (.empty, f)
  | .atom a span => do
    let s ← a.meaning k span f
    return (.set s, f)
  | .dot span => do
    let p ← dotMeaning span f
    return (p, f)
  | .lineStart => .ok (.look f.start, f)
  | .lineEnd => .ok (.look f.stop, f)
  | .textStart => .ok (.look .textStart, f)
  | .textEnd => .ok (.look .textEnd, f)
  | .word side => .ok (.look (.word side f.unicode), f)
  | .bracketed negated inner span => do
    let s ← inner.meaning k f
    let s ← finishSet s negated span f
    return (.set s, f)
  | .switch s => .ok (.empty, f.setAll s)
  | .group s inner => do
    let (p, _) ← inner.meaning k (f.setAll s)
    return (p, f)
  | .seq a b => do
    let (p, g) ← a.meaning k f
    let (q, h) ← b.meaning k g
    return (.seq p q, h)
  | .alt a b => do
    let (p, g) ← a.meaning k f
    let (q, h) ← b.meaning k g
    return (.alt p q, h)
  | .times body min max greedy => do
    let (p, g) ← body.meaning k f
    return (.times p min max (greedy != f.swapGreed), g)

/-- The pattern of a whole expression. -/
def Expr.pattern (k : Properties) (e : Expr) : Except Refusal Pattern := do
  let (p, _) ← e.meaning k {}
  return p

end TextParser.Regex
