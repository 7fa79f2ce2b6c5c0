/-!
Texts and places in them.

A text is a list of characters. Places are told in bytes of the UTF-8 form, so a place may fall
inside a character; cutting there moves it back to where that character begins.

    a é b        bytes 0 1 . 3        cut 2 = (a, éb)     cut 3 = (aé, b)
-/

namespace TextParser

/-- What parsers read: a sequence of characters. -/
abbrev Text := List Char

namespace Text

/-- The number of bytes of the UTF-8 form. -/
def byteSize : Text → Nat
  | [] => 0
  | c :: t => c.utf8Size + byteSize t

/-- Cuts a text at the last character boundary that is not beyond byte `place`. -/
def cut : Nat → Text → Text × Text
  | _, [] => ([], [])
  | place, c :: t =>
    if c.utf8Size ≤ place then
      let (before, after) := cut (place - c.utf8Size) t
      (c :: before, after)
    else ([], c :: t)

/-- The last `n` characters. -/
def takeLast (n : Nat) (t : Text) : Text := t.drop (t.length - n)

/-- What is left of a text after `start`, if it begins with that. -/
def dropStart? : Text → Text → Option Text
  | [], t => some t
  | _ :: _, [] => none
  | s :: start, c :: t => if s = c then dropStart? start t else none

/-- Whether `c` is a control character: U+0000 to U+001F and U+007F to U+009F. -/
def isControl (c : Char) : Bool :=
  c.toNat < 0x20 || (0x7F ≤ c.toNat && c.toNat < 0xA0)

/-! ### Lines -/

/-- The pieces of a text between line feeds; there is always at least one. -/
def lines : Text → List Text
  | [] => [[]]
  | c :: t =>
    match lines t with
    | [] => [[c]]
    | line :: more => if c = '\n' then [] :: line :: more else (c :: line) :: more

end Text

end TextParser
