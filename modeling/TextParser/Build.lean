import TextParser.Logged
import TextParser.Regex

/-!
Building parsers: it may fail, and it keeps a record in either case.
-/

universe u v

namespace TextParser

/-- Why a parser cannot be built. -/
inductive BuildError where
  /-- The pattern of a recognizer is refused. -/
  | invalidPattern (pattern : String) (reason : Regex.Error)
  /-- A regular expression given by itself is refused. -/
  | invalidRegex (reason : Regex.Error)
  /-- A choice has no alternatives. -/
  | emptyChoice
  deriving DecidableEq, Repr

namespace BuildError

/-- What is said of a parser that cannot be built. -/
def message : BuildError → String
  | invalidPattern pattern reason => s!"invalid pattern /{pattern}/: {reason.message}"
  | invalidRegex reason => reason.message
  | emptyChoice => "choice requires at least one parser"

end BuildError

/-- A value being built, or the reason why it cannot be, with the record so far. -/
def Build (α : Type u) : Type u := Logged (Except BuildError α)

namespace Build

variable {α : Type u} {β : Type v}

/-- Goes on with what was built. The first error stops the building. -/
def andThen (x : Build α) (f : α → Build β) : Build β :=
  match x with
  | ⟨.ok a, log⟩ =>
    let y := f a
    ⟨y.value, log ++ y.log⟩
  | ⟨.error e, log⟩ => ⟨.error e, log⟩

/-- Applies `f` to what was built. -/
def map (f : α → β) (x : Build α) : Build β := ⟨x.value.map f, x.log⟩

instance : Monad Build where
  pure a := ⟨.ok a, []⟩
  bind := andThen

/-- Records one event. -/
def record (e : Event) : Build PUnit := ⟨.ok ⟨⟩, [e]⟩

/-- Gives up. -/
def throw (e : BuildError) : Build α := ⟨.error e, []⟩

/-- Folds alternatives into one from the left, by the way `either` to join two. -/
def choice (either : α → α → α) (alternatives : List α) : Build α := do
  record (.buildingChoice alternatives.length)
  match alternatives with
  | [] => throw .emptyChoice
  | first :: more => return more.foldl either first

end Build

end TextParser
