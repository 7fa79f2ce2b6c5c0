import TextParser.Text

/-!
Texts as bytes. An ASCII character is one byte in UTF-8, and that byte is part of no other character,
so a text can be cut at such bytes before it is read.

    a é ⏎        61  C3 A9  0A        0A nowhere but in the line feed
-/

namespace TextParser

namespace Text

variable {c d : Char} {s t : Text}

/-- The UTF-8 form of a text. -/
def utf8 (t : Text) : List UInt8 := t.flatMap String.utf8EncodeChar

@[simp] theorem utf8_nil : utf8 [] = [] := rfl

@[simp] theorem utf8_cons (c : Char) (t : Text) :
    utf8 (c :: t) = String.utf8EncodeChar c ++ utf8 t := rfl

@[simp] theorem utf8_append (s t : Text) : utf8 (s ++ t) = utf8 s ++ utf8 t :=
  List.flatMap_append

theorem utf8_eq_nil_iff : utf8 t = [] ↔ t = [] := by
  cases t with
  | nil => exact ⟨fun _ => rfl, fun _ => rfl⟩
  | cons c t => simp [String.utf8EncodeChar_ne_nil]

/-! ### ASCII -/

/-- The byte of an ASCII character. -/
def asciiByte (c : Char) : UInt8 := UInt8.ofNat c.toNat

theorem utf8EncodeChar_of_ascii (h : c.toNat < 128) :
    String.utf8EncodeChar c = [asciiByte c] := by
  have hle : c.val.toNat ≤ 127 := Nat.le_of_lt_succ h
  simp only [String.utf8EncodeChar, if_pos hle, asciiByte]
  rfl

/-- The byte of an ASCII character stands for that character only. -/
theorem eq_of_mem_utf8EncodeChar (hd : d.toNat < 128)
    (h : asciiByte d ∈ String.utf8EncodeChar c) : c = d := by
  have hbyte (n : Nat) (hn : n < 256) (he : asciiByte d = UInt8.ofNat n) : d.toNat = n := by
    have := congrArg UInt8.toNat he
    simp only [asciiByte, UInt8.toNat_ofNat'] at this
    omega
  simp only [String.utf8EncodeChar] at h
  split at h
  · rename_i hc
    have hval := hbyte _ (by omega) (List.mem_singleton.1 h)
    exact Char.ext (UInt32.toNat_inj.1 hval.symm)
  · -- the bytes of all longer forms are beyond ASCII
    exfalso
    split at h
    · simp only [List.mem_cons, List.not_mem_nil, or_false] at h
      rcases h with h | h <;> have := hbyte _ (by omega) h <;> omega
    · split at h <;> simp only [List.mem_cons, List.not_mem_nil, or_false] at h
      · rcases h with h | h | h <;> have := hbyte _ (by omega) h <;> omega
      · rcases h with h | h | h | h <;> have := hbyte _ (by omega) h <;> omega

/-- A text ends with the byte of an ASCII character if it ends with that character. -/
theorem getLast?_utf8_iff (hd : d.toNat < 128) :
    (utf8 t).getLast? = some (asciiByte d) ↔ t.getLast? = some d := by
  rcases List.eq_nil_or_concat t with rfl | ⟨s, c, rfl⟩
  · simp
  · have hne : String.utf8EncodeChar c ≠ [] := String.utf8EncodeChar_ne_nil
    have hlast : (utf8 s ++ String.utf8EncodeChar c).getLast? =
        (String.utf8EncodeChar c).getLast? := by
      rw [List.getLast?_append, List.getLast?_eq_some_getLast hne, Option.some_or]
    rw [List.concat_eq_append, utf8_append, utf8_cons, utf8_nil, List.append_nil, hlast,
      List.getLast?_concat]
    constructor
    · intro h
      rw [eq_of_mem_utf8EncodeChar hd (List.mem_of_getLast? h)]
    · intro h
      cases h
      rw [utf8EncodeChar_of_ascii hd]
      rfl

end Text

end TextParser
