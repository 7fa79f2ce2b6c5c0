/-!
Runs that keep a record: log events and lines for standard error, in the order they happen.
-/

universe u v

namespace TextParser

/-- How much an event matters. -/
inductive Level where
  | trace | debug | warn
  deriving DecidableEq, Repr

/-- An entry in the record of a run. -/
inductive Event where
  /-- A recognizer for `pattern` was compiled. -/
  | compiled (pattern : String)
  /-- A choice between so many alternatives is being built. -/
  | buildingChoice (alternatives : Nat)
  /-- A first alternative failed, so the second one is tried. -/
  | fellBack
  /-- A list of so many words was parsed. -/
  | parsedWords (count : Nat)
  /-- A failure at `offset` is about to be reported. -/
  | reporting (offset : Nat)
  /-- A report of a failure at `offset`, to the log. -/
  | warning (report : String) (offset : Nat)
  /-- A line written to standard error. -/
  | printed (line : String)
  deriving DecidableEq, Repr

namespace Event

/-- The level of an event of the log. -/
def level? : Event → Option Level
  | compiled _ => some .debug
  | buildingChoice _ => some .debug
  | fellBack => some .trace
  | parsedWords _ => some .trace
  | reporting _ => some .debug
  | warning _ _ => some .warn
  | printed _ => none

/-- The message of an event. -/
def message : Event → String
  | compiled _ => "compiled recognizer"
  | buildingChoice _ => "building choice"
  | fellBack => "first alternative failed, trying second"
  | parsedWords _ => "parsed words"
  | reporting _ => "reporting parse failure"
  | warning report _ => report
  | printed line => line

/-- Whether the event is one of the log other than a fallback. -/
def isNotable : Event → Bool
  | fellBack => false
  | printed _ => false
  | _ => true

/-- What the event writes to standard error. -/
def standardError : Event → String
  | printed line => line ++ "\n"
  | _ => ""

end Event

/-- The record of a run. -/
abbrev Log := List Event

namespace Log

/-- How often a second alternative was tried. -/
def fallbacks (l : Log) : Nat := l.count .fellBack

/-- The events of the log other than fallbacks. -/
def notable (l : Log) : Log := l.filter (·.isNotable)

/-- All that was written to standard error. -/
def standardError (l : Log) : String := String.join (l.map (·.standardError))

end Log

/-- A value with the record of how it came about. -/
structure Logged (α : Type u) where
  value : α
  log : Log := []
  deriving DecidableEq, Repr

namespace Logged

variable {α : Type u} {β : Type v}

/-- Goes on with the value, the records one after the other. -/
def andThen (x : Logged α) (f : α → Logged β) : Logged β :=
  let y := f x.value
  ⟨y.value, x.log ++ y.log⟩

instance : Monad Logged where
  pure a := ⟨a, []⟩
  bind := andThen

/-- Records one event. -/
def record (e : Event) : Logged PUnit := ⟨⟨⟩, [e]⟩

@[simp] theorem pure_eq (a : α) : (pure a : Logged α) = ⟨a, []⟩ := rfl

end Logged

end TextParser
