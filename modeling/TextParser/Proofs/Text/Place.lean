import TextParser.Text

/-!
Places in texts: byte lengths add up along a split, and a character boundary is the byte length of
a part in front.

    text        a é | b
    in front    aé            byte length 3, so 3 is a boundary; 2 is none
-/

namespace TextParser.Text

@[simp] theorem byteSize_nil : byteSize [] = 0 := rfl

@[simp] theorem byteSize_cons (c : Char) (t : Text) :
    byteSize (c :: t) = c.utf8Size + byteSize t := rfl

@[simp] theorem byteSize_append (s t : Text) : byteSize (s ++ t) = byteSize s + byteSize t := by
  induction s with
  | nil => rw [List.nil_append, byteSize_nil, Nat.zero_add]
  | cons c s ih => rw [List.cons_append, byteSize_cons, byteSize_cons, ih, Nat.add_assoc]

theorem byteSize_le_of_suffix {rest t : Text} (h : rest <:+ t) : rest.byteSize ≤ t.byteSize := by
  obtain ⟨taken, rfl⟩ := h
  rw [byteSize_append]
  exact Nat.le_add_left ..

/-! ### Boundaries -/

/-- Whether `place` lies between two characters of the text, or at one of its ends. -/
def IsBoundary (t : Text) (place : Nat) : Prop := ∃ front, front <+: t ∧ byteSize front = place

theorem isBoundary_zero (t : Text) : t.IsBoundary 0 := ⟨[], List.nil_prefix, rfl⟩

theorem IsBoundary.le_byteSize {t : Text} {place : Nat} (h : t.IsBoundary place) :
    place ≤ t.byteSize := by
  obtain ⟨front, ⟨back, rfl⟩, rfl⟩ := h
  rw [byteSize_append]
  exact Nat.le_add_right ..

/-- The bytes that are gone when only `rest` is left end at a boundary. -/
theorem isBoundary_sub_of_suffix {rest t : Text} (h : rest <:+ t) :
    t.IsBoundary (t.byteSize - rest.byteSize) := by
  obtain ⟨taken, rfl⟩ := h
  refine ⟨taken, List.prefix_append .., ?_⟩
  rw [byteSize_append, Nat.add_sub_cancel]

/-- A boundary of what is left, moved on by the bytes that are gone, is one of the whole text. -/
theorem IsBoundary.add_sub {rest t : Text} {place : Nat} (hp : rest.IsBoundary place)
    (h : rest <:+ t) : t.IsBoundary (place + (t.byteSize - rest.byteSize)) := by
  obtain ⟨taken, rfl⟩ := h
  obtain ⟨front, ⟨back, rfl⟩, rfl⟩ := hp
  refine ⟨taken ++ front, ⟨back, by rw [List.append_assoc]⟩, ?_⟩
  rw [byteSize_append, byteSize_append, Nat.add_sub_cancel, Nat.add_comm]

end TextParser.Text
