import TextParser.Parser

/-!
Parsers described by the type of their values.
-/

namespace TextParser

/-- Types that go by a name in descriptions. -/
class TypeName (α : Type) where
  name : String

namespace TypeName

instance : TypeName String := ⟨"alloc::string::String"⟩

instance : TypeName Unit := ⟨"()"⟩

instance {α : Type} [TypeName α] : TypeName (List α) :=
  ⟨s!"alloc::vec::Vec<{name α}>"⟩

instance {α β : Type} [TypeName α] [TypeName β] : TypeName (α × β) :=
  ⟨s!"({name α}, {name β})"⟩

end TypeName

/-- A parser described by the type of its values. -/
def Parser.describe {α : Type} [TypeName α] (_ : Parser α) : String :=
  s!"Parser \x7b output: \"{TypeName.name α}\" \x7d"

end TextParser
