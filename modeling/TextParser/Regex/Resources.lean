import TextParser.Regex.CharSet
import TextParser.Regex.Expr

/-!
What compiling takes from elsewhere: which characters have a property, and which expressions go
beyond a limit.

    \p{Greek}        the set that is kept under this name
    x{1000}{1000}    a program of a million states

How an expression is read, what it means and how it is searched for does not depend on them.
-/

namespace TextParser.Regex

/-! ### Properties -/

/-- What is not known of a property that is asked for: its name, or a value that it should have. -/
inductive Unknown where
  | name
  | value
  deriving DecidableEq, Repr

/-- The sets of the properties. -/
abbrev Properties := PropertyQuery → Except Unknown CharSet

/-! ### Limits -/

/-- The most memory, in bytes, that the program of an expression may take. -/
def sizeLimit : Nat := 10485760

/-- What an expression has too much of: states, or groups and brackets around the stretch `span`. -/
inductive Limit where
  | size
  | nesting (span : Span)
  deriving DecidableEq, Repr

/-- What compiling takes from elsewhere. -/
structure Resources where
  properties : Properties
  /-- The limit that an expression goes beyond, if there is one. -/
  exceeded? : Text → Option Limit

end TextParser.Regex
