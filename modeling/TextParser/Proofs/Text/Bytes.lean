import TextParser.Proofs.Text.Place

/-!
Texts by byte places. Places are numbers of limited size, and a text is cut only between two of its
characters; what goes beyond that has no result.

    text      a é b      cut at 3      aé | b
    bytes     0 1 3 4    cut at 2      none, for 2 is inside of é

From a place inside of a character, steps back of one byte come to the boundary in front of it.
-/

namespace TextParser

/-! ### Places as numbers -/

namespace Place

/-- How far `m` is beyond `n`, if it is not in front of it. -/
def sub? (m n : Nat) : Option Nat := if n ≤ m then some (m - n) else none

/-- The place `n` bytes beyond `m`, if it is not beyond `limit`. -/
def add? (limit m n : Nat) : Option Nat := if m + n ≤ limit then some (m + n) else none

theorem sub?_of_le {m n : Nat} (h : n ≤ m) : sub? m n = some (m - n) := if_pos h

theorem add?_of_le {limit m n : Nat} (h : m + n ≤ limit) : add? limit m n = some (m + n) :=
  if_pos h

end Place

namespace Text

/-! ### Cutting -/

/-- The text cut in two at byte `place`, if that is between two characters. -/
def splitAt? : (place : Nat) → Text → Option (Text × Text)
  | 0, t => some ([], t)
  | _ + 1, [] => none
  | place + 1, c :: t =>
    if c.utf8Size ≤ place + 1 then
      (splitAt? (place + 1 - c.utf8Size) t).map fun (before, after) => (c :: before, after)
    else none

/-- The text between two byte places, if both are between two characters and in this order. -/
def slice? (start stop : Nat) (t : Text) : Option Text := do
  let (front, _) ← splitAt? stop t
  let (_, middle) ← splitAt? start front
  return middle

/-- The first boundary found from `place` on by steps back of one byte, if there is no step from 0
further back. -/
def stepBack? (t : Text) : (place : Nat) → Option Nat
  | 0 => if (splitAt? 0 t).isSome then some 0 else none
  | place + 1 => if (splitAt? (place + 1) t).isSome then some (place + 1) else stepBack? t place

/-- The characters, each with the place where it begins; the text begins at `place`. -/
def charIndicesFrom (place : Nat) : Text → List (Nat × Char)
  | [] => []
  | c :: t => (place, c) :: charIndicesFrom (place + c.utf8Size) t

/-- The characters, each with the place where it begins. -/
def charIndices (t : Text) : List (Nat × Char) := charIndicesFrom 0 t

variable {t : Text} {place n : Nat}

theorem splitAt?_append : ∀ front back : Text,
    splitAt? (byteSize front) (front ++ back) = some (front, back)
  | [], back => by rw [byteSize_nil, splitAt?, List.nil_append]
  | c :: front, back => by
    obtain ⟨n, hn⟩ := Nat.exists_eq_succ_of_ne_zero (Nat.ne_of_gt c.utf8Size_pos)
    have hsize : byteSize (c :: front) = n + byteSize front + 1 := by
      rw [byteSize_cons, hn]
      omega
    have hback : n + byteSize front + 1 - c.utf8Size = byteSize front := by omega
    rw [hsize, List.cons_append, splitAt?, if_pos (by omega), hback, splitAt?_append front back,
      Option.map_some]

theorem eq_append_of_splitAt? : ∀ {place : Nat} {t before after : Text},
    splitAt? place t = some (before, after) → t = before ++ after ∧ byteSize before = place
  | 0, t, before, after, h => by
    rw [splitAt?] at h
    cases h
    exact ⟨rfl, rfl⟩
  | place + 1, [], before, after, h => by rw [splitAt?] at h; cases h
  | place + 1, c :: t, before, after, h => by
    rw [splitAt?] at h
    split at h
    · obtain ⟨⟨front, back⟩, hrest, hpair⟩ := Option.map_eq_some_iff.1 h
      cases hpair
      obtain ⟨rfl, hsize⟩ := eq_append_of_splitAt? hrest
      refine ⟨rfl, ?_⟩
      rw [byteSize_cons, hsize]
      omega
    · cases h

/-- The text can be cut at its boundaries. -/
theorem isSome_splitAt?_iff : (splitAt? place t).isSome ↔ t.IsBoundary place := by
  constructor
  · intro h
    obtain ⟨⟨before, after⟩, hsplit⟩ := Option.isSome_iff_exists.1 h
    obtain ⟨rfl, hsize⟩ := eq_append_of_splitAt? hsplit
    exact ⟨before, List.prefix_append .., hsize⟩
  · rintro ⟨front, ⟨back, rfl⟩, rfl⟩
    rw [splitAt?_append]
    rfl

theorem slice?_append (front middle back : Text) :
    slice? (byteSize front) (byteSize (front ++ middle)) (front ++ middle ++ back) =
      some middle := by
  simp only [slice?, splitAt?_append, Option.bind_eq_bind, Option.bind_some, Option.pure_def]

/-! ### The boundary in front of a place -/

/-- Steps back end at the greatest boundary that is not beyond the place. -/
theorem stepBack?_eq (hb : t.IsBoundary n) : ∀ {place : Nat}, n ≤ place →
    (∀ m, t.IsBoundary m → m ≤ place → m ≤ n) → stepBack? t place = some n
  | 0, hn, _ => by
    obtain rfl := Nat.le_zero.1 hn
    rw [stepBack?, if_pos (isSome_splitAt?_iff.2 hb)]
  | place + 1, hn, hmax => by
    by_cases hhere : t.IsBoundary (place + 1)
    · obtain rfl : n = place + 1 := Nat.le_antisymm hn (hmax _ hhere (Nat.le_refl _))
      rw [stepBack?, if_pos (isSome_splitAt?_iff.2 hb)]
    · have hne : n ≠ place + 1 := fun h => hhere (h ▸ hb)
      rw [stepBack?, if_neg fun h => hhere (isSome_splitAt?_iff.1 h)]
      exact stepBack?_eq hb (by omega) fun m hm hle => hmax m hm (by omega)

theorem cut_append : ∀ (place : Nat) (t : Text), (cut place t).1 ++ (cut place t).2 = t
  | _, [] => rfl
  | place, c :: t => by
    rw [cut]
    split
    · exact congrArg (c :: ·) (cut_append (place - c.utf8Size) t)
    · rfl

theorem exists_cut_eq (place : Nat) (t : Text) :
    ∃ front back, t = front ++ back ∧ cut place t = (front, back) :=
  ⟨_, _, (cut_append place t).symm, rfl⟩

/-- A cut beyond a text in front falls in what follows it, as far on as that text is long. -/
theorem cut_byteSize_add : ∀ (front t : Text) (place : Nat),
    cut (byteSize front + place) (front ++ t) = (front ++ (cut place t).1, (cut place t).2)
  | [], t, place => by rw [byteSize_nil, Nat.zero_add, List.nil_append, List.nil_append]
  | c :: front, t, place => by
    have hplace : byteSize (c :: front) + place - c.utf8Size = byteSize front + place := by
      rw [byteSize_cons]
      omega
    have hle : c.utf8Size ≤ byteSize (c :: front) + place := by
      rw [byteSize_cons]
      omega
    rw [List.cons_append, cut, if_pos hle, hplace, cut_byteSize_add front t place,
      List.cons_append]

theorem byteSize_cut_le : ∀ (place : Nat) (t : Text), byteSize (cut place t).1 ≤ place
  | _, [] => Nat.zero_le _
  | place, c :: t => by
    have hrest := byteSize_cut_le (place - c.utf8Size) t
    rw [cut]
    split
    · rw [byteSize_cons]
      omega
    · exact Nat.zero_le _

theorem isBoundary_cut (place : Nat) (t : Text) : t.IsBoundary (byteSize (cut place t).1) :=
  ⟨_, ⟨_, cut_append place t⟩, rfl⟩

theorem isBoundary_cons_iff {c : Char} :
    IsBoundary (c :: t) n ↔ n = 0 ∨ ∃ m, t.IsBoundary m ∧ n = c.utf8Size + m := by
  constructor
  · rintro ⟨front, ⟨back, hfront⟩, rfl⟩
    cases front with
    | nil => exact .inl rfl
    | cons d front =>
      obtain ⟨rfl, rfl⟩ := List.cons.inj hfront
      exact .inr ⟨_, ⟨front, List.prefix_append .., rfl⟩, rfl⟩
  · rintro (rfl | ⟨m, ⟨front, ⟨back, rfl⟩, rfl⟩, rfl⟩)
    · exact isBoundary_zero _
    · exact ⟨c :: front, ⟨back, rfl⟩, rfl⟩

/-- No boundary is between the cut and the place that was asked for. -/
theorem le_byteSize_cut : ∀ {n place : Nat} {t : Text}, t.IsBoundary n → n ≤ place →
    n ≤ byteSize (cut place t).1
  | _, _, [], hn, _ => hn.le_byteSize
  | _, place, c :: t, hn, hle => by
    rcases isBoundary_cons_iff.1 hn with rfl | ⟨m, hm, rfl⟩
    · exact Nat.zero_le _
    · have hfit : m ≤ place - c.utf8Size := by omega
      have hrest := le_byteSize_cut hm hfit
      rw [cut, if_pos (by omega), byteSize_cons]
      exact Nat.add_le_add_left hrest _

/-- From any place, or the end of the text if that is nearer, steps back come to where the text is
cut for that place. -/
theorem stepBack?_min (place : Nat) (t : Text) :
    stepBack? t (min place t.byteSize) = some (byteSize (cut place t).1) := by
  have hb := isBoundary_cut place t
  refine stepBack?_eq hb (Nat.le_min.2 ⟨byteSize_cut_le place t, hb.le_byteSize⟩) ?_
  intro m hm hle
  exact le_byteSize_cut hm (Nat.le_trans hle (Nat.min_le_left ..))

/-! ### Places of characters -/

/-- Where the character at index `k` begins, or else where the text ends: behind the `k` first
characters. -/
theorem getElem?_charIndicesFrom : ∀ (place k : Nat) (t : Text),
    ((charIndicesFrom place t)[k]?.map (·.1)).getD (place + byteSize t) =
      place + byteSize (t.take k)
  | place, _, [] => by rw [List.take_nil]; rfl
  | place, 0, c :: t => rfl
  | place, k + 1, c :: t => by
    have hrest := getElem?_charIndicesFrom (place + c.utf8Size) k t
    rw [charIndicesFrom, List.getElem?_cons_succ, byteSize_cons, List.take_succ_cons,
      byteSize_cons, ← Nat.add_assoc, hrest, Nat.add_assoc]

theorem length_charIndicesFrom : ∀ (place : Nat) (t : Text),
    (charIndicesFrom place t).length = t.length
  | _, [] => rfl
  | place, c :: t => by
    rw [charIndicesFrom, List.length_cons, length_charIndicesFrom, List.length_cons]

theorem getElem?_charIndices (k : Nat) (t : Text) :
    ((charIndices t)[k]?.map (·.1)).getD (byteSize t) = byteSize (t.take k) := by
  have h := getElem?_charIndicesFrom 0 k t
  rwa [Nat.zero_add, Nat.zero_add] at h

/-- The last of `k` characters, taken from the back, begins where the others end. -/
theorem getLast?_take_reverse_charIndices (k : Nat) (t : Text) :
    (((charIndices t).reverse.take k).getLast?.map (·.1)).getD (byteSize t) =
      byteSize (t.take (t.length - k)) := by
  rw [List.take_reverse, List.getLast?_reverse, List.head?_drop, charIndices,
    length_charIndicesFrom, ← charIndices, getElem?_charIndices]

end Text

end TextParser
