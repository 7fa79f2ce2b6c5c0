import TextParser.Unicode.Run

/-!
Separators by general category.
-/

namespace TextParser.Unicode.Separator

/-- Spaces of every width. -/
def space : List Run := [
  ⟨0x20, 0x20, 1⟩, ⟨0xA0, 0xA0, 1⟩, ⟨0x1680, 0x1680, 1⟩, ⟨0x2000, 0x200A, 1⟩, ⟨0x202F, 0x202F, 1⟩,
  ⟨0x205F, 0x205F, 1⟩, ⟨0x3000, 0x3000, 1⟩]

/-- The line separator. -/
def line : List Run := [
  ⟨0x2028, 0x2028, 1⟩]

/-- The paragraph separator. -/
def paragraph : List Run := [
  ⟨0x2029, 0x2029, 1⟩]

end TextParser.Unicode.Separator
