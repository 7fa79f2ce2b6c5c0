/-!
Flags: switches inside an expression that change how what follows is read. A switch lasts to the
end of the group it stands in.

    (?i)      on for the rest of the group
    (?s-i:…)  `s` on and `i` off inside
-/

namespace TextParser.Regex

/-- A switch. -/
inductive Flag where
  /-- `i`: letters match in either case. -/
  | caseless
  /-- `m`: `^` and `$` match at lines. -/
  | multiLine
  /-- `s`: `.` matches line feeds too. -/
  | dotAll
  /-- `U`: repetitions are lazy, and greedy with a `?`. -/
  | swapGreed
  /-- `u`: classes and boundaries are those of Unicode. -/
  | unicode
  /-- `R`: lines may end with a carriage return. -/
  | crlf
  /-- `x`: blanks and comments do not count. -/
  | verbose
  deriving DecidableEq, Repr

namespace Flag

/-- The switch written `c`. -/
def ofChar? : Char → Option Flag
  | 'i' => some caseless
  | 'm' => some multiLine
  | 's' => some dotAll
  | 'U' => some swapGreed
  | 'u' => some unicode
  | 'R' => some crlf
  | 'x' => some verbose
  | _ => none

end Flag

/-- Switches to set, each to on or off. -/
abbrev Switches := List (Flag × Bool)

/-- The position of every switch that changes meaning; `x` matters to the reader only. -/
structure Flags where
  caseless : Bool := false
  multiLine : Bool := false
  dotAll : Bool := false
  swapGreed : Bool := false
  unicode : Bool := true
  crlf : Bool := false
  deriving DecidableEq, Repr

namespace Flags

/-- Sets one switch. -/
def set (f : Flags) : Flag → Bool → Flags
  | .caseless, b => { f with caseless := b }
  | .multiLine, b => { f with multiLine := b }
  | .dotAll, b => { f with dotAll := b }
  | .swapGreed, b => { f with swapGreed := b }
  | .unicode, b => { f with unicode := b }
  | .crlf, b => { f with crlf := b }
  | .verbose, _ => f

/-- Sets switches in turn. -/
def setAll (f : Flags) (s : Switches) : Flags :=
  s.foldl (fun f (flag, on) => f.set flag on) f

end Flags

namespace Switches

/-- Whether blanks are skipped after `s`, having been skipped before or not. -/
def verbose (s : Switches) (before : Bool) : Bool :=
  (s.lookup .verbose).getD before

end Switches

end TextParser.Regex
