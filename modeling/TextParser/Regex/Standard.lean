import TextParser.Regex
import TextParser.Regex.Size

/-!
The standard resources, which built-in parsers and grammars are compiled with: the properties that
the tables have a name for, and a limit to the size of a program, by a reckoning.

    \p{Greek}         in the tables
    \p{Cs}            a category without characters: its name is known, and no set
    x{1000}{1000}     beyond the limit

Nesting is not limited. What is told of patterns in general holds with any resources.
-/

namespace TextParser.Regex

/-- The properties that the tables have a name for. -/
def Properties.standard : Properties
  | .named name =>
    match Unicode.Property.named? name with
    | some p => .ok (.property p)
    | none => .error (if Unicode.Property.namesSurrogates name then .value else .name)
  | .valued name value =>
    match Unicode.Property.Axis.named? name with
    | none => .error .name
    | some axis =>
      match axis.value? value with
      | some p => .ok (.property p)
      | none => .error .value

namespace Resources

/-- The properties of the tables, and programs up to the limit in size. -/
def standard : Resources where
  properties := .standard
  exceeded? expr :=
    match readPattern .standard expr with
    | .ok p => if Size.ofPattern p ≤ sizeLimit then none else some .size
    | .error _ => none

end Resources

end TextParser.Regex
