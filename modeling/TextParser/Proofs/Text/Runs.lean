import TextParser.Proofs.Text.Place

/-!
Runs in a text: the longest stretches of characters of one kind.

    text   ab, cde  f        kind: letters
    runs   ab  cde  f

A run starts at every place with such a character behind it and none in front of it.
-/

namespace TextParser.Text

variable {p : Char → Bool} {before : Option Char} {t w : Text}

/-- The runs that start in `t`, with the character `before` in front of it. -/
def runsAfter (p : Char → Bool) : (before : Option Char) → Text → List Text
  | _, [] => []
  | before, c :: t =>
    if p c && !before.any p then (c :: t).takeWhile p :: runsAfter p (some c) t
    else runsAfter p (some c) t

/-- The longest stretches of characters that satisfy `p`, from left to right. -/
def runs (p : Char → Bool) (t : Text) : List Text := runsAfter p none t

/-- Whether `w` satisfies `p` throughout and is as long as it can be between `front` and `back`; the
character `before` is in front of them all. -/
structure IsRun (p : Char → Bool) (before : Option Char) (front w back : Text) : Prop where
  ne_nil : w ≠ []
  all : ∀ c ∈ w, p c
  begins : ¬ (front.getLast?.or before).any p
  ends : ¬ back.head?.any p

theorem IsRun.takeWhile {c : Char} (hc : p c) (hb : ¬ before.any p) (t : Text) :
    IsRun p before [] ((c :: t).takeWhile p) ((c :: t).dropWhile p) where
  ne_nil := by simp [hc]
  all := List.all_eq_true.1 List.all_takeWhile
  begins := by simpa using hb
  ends := by
    have h := List.head?_dropWhile_not p (c :: t)
    cases hd : ((c :: t).dropWhile p).head? with
    | none => simp
    | some d => rw [hd] at h; simpa using h

theorem IsRun.cons_iff {front back : Text} (c : Char) :
    IsRun p before (c :: front) w back ↔ IsRun p (some c) front w back := by
  have hlast : (c :: front).getLast?.or before = front.getLast?.or (some c) := by
    cases h : front.getLast? <;> simp [List.getLast?_cons, h]
  constructor
  · rintro ⟨hne, hall, hb, he⟩
    exact ⟨hne, hall, hlast ▸ hb, he⟩
  · rintro ⟨hne, hall, hb, he⟩
    exact ⟨hne, hall, hlast ▸ hb, he⟩

/-- A run at the front takes all it can. -/
theorem IsRun.eq_takeWhile {back : Text} (h : IsRun p before [] w back) :
    (w ++ back).takeWhile p = w := by
  rw [List.takeWhile_append_of_pos h.all]
  cases back with
  | nil => simp
  | cons d back =>
    have hd : p d = false := by simpa using h.ends
    simp [hd]

/-- The runs of a text are its longest stretches. -/
theorem mem_runsAfter_iff : w ∈ runsAfter p before t ↔
    ∃ front back, t = front ++ (w ++ back) ∧ IsRun p before front w back := by
  induction t generalizing before with
  | nil =>
    constructor
    · rintro ⟨⟩
    · rintro ⟨front, back, ht, h⟩
      simp [h.ne_nil] at ht
  | cons c t ih =>
    -- a run starts at `c`, or behind it
    have hsplit : (∃ front back, c :: t = front ++ (w ++ back) ∧ IsRun p before front w back) ↔
        (p c && !before.any p) ∧ w = (c :: t).takeWhile p ∨ w ∈ runsAfter p (some c) t := by
      rw [ih]
      constructor
      · rintro ⟨front, back, ht, h⟩
        cases front with
        | nil =>
          left
          obtain ⟨d, w, rfl⟩ := List.exists_cons_of_ne_nil h.ne_nil
          have hb := h.begins
          obtain ⟨rfl, -⟩ := List.cons.inj ht
          refine ⟨by simpa [h.all c List.mem_cons_self] using hb, ?_⟩
          rw [ht, List.nil_append, h.eq_takeWhile]
        | cons d front =>
          obtain ⟨rfl, rfl⟩ := List.cons.inj ht
          exact .inr ⟨front, back, rfl, (IsRun.cons_iff c).1 h⟩
      · rintro (⟨hc, rfl⟩ | ⟨front, back, rfl, h⟩)
        · rw [Bool.and_eq_true, Bool.not_eq_true'] at hc
          exact ⟨[], (c :: t).dropWhile p, by rw [List.nil_append, List.takeWhile_append_dropWhile],
            .takeWhile hc.1 (by rw [hc.2]; exact Bool.false_ne_true) t⟩
        · exact ⟨c :: front, back, rfl, (IsRun.cons_iff c).2 h⟩
    rw [hsplit, runsAfter]
    split <;> simp_all

theorem mem_runs_iff : w ∈ runs p t ↔
    ∃ front back, t = front ++ (w ++ back) ∧ IsRun p none front w back :=
  mem_runsAfter_iff

/-- The rest of a run that has begun is no run of its own. -/
theorem runsAfter_some_of_mem {c : Char} (hc : p c) :
    ∀ t : Text, runsAfter p (some c) t = runs p (t.dropWhile p)
  | [] => rfl
  | d :: t => by
    rw [runsAfter, List.dropWhile_cons]
    cases hd : p d with
    | true => simpa [hc] using runsAfter_some_of_mem hd t
    | false => simp [runs, runsAfter, hd]

theorem runs_cons_of_mem {c : Char} (hc : p c) (t : Text) :
    runs p (c :: t) = (c :: t.takeWhile p) :: runs p (t.dropWhile p) := by
  rw [runs, runsAfter, runsAfter_some_of_mem hc]
  simp [hc]

theorem runsAfter_some_of_not_mem {c : Char} (hc : ¬ p c) (t : Text) :
    runsAfter p (some c) t = runs p t := by
  cases t with
  | nil => rfl
  | cons d t => simp [runs, runsAfter, hc]

theorem runs_cons_of_not_mem {c : Char} (hc : ¬ p c) (t : Text) :
    runs p (c :: t) = runs p t := by
  rw [runs, runsAfter, runsAfter_some_of_not_mem hc]
  simp [hc]

/-- Nothing starts in a stretch without such characters. -/
theorem runs_dropWhile {q : Char → Bool} (hq : ∀ c, q c → ¬ p c) :
    ∀ t : Text, runs p (t.dropWhile q) = runs p t
  | [] => rfl
  | c :: t => by
    rw [List.dropWhile_cons]
    split
    · rw [runs_dropWhile hq t, runs_cons_of_not_mem (hq c ‹_›)]
    · rfl

/-- A stretch taken off the front of a longer one leaves the same behind it. -/
theorem dropWhile_dropWhile {q : Char → Bool} (hq : ∀ c, q c → p c) :
    ∀ t : Text, (t.dropWhile q).dropWhile p = t.dropWhile p
  | [] => rfl
  | c :: t => by
    rw [List.dropWhile_cons]
    split
    · rw [dropWhile_dropWhile hq t, List.dropWhile_cons_of_pos (hq c ‹_›)]
    · rfl

theorem dropWhile_eq_nil_iff : t.dropWhile p = [] ↔ t.all p := by
  induction t with
  | nil => exact ⟨fun _ => rfl, fun _ => rfl⟩
  | cons c t ih =>
    rw [List.dropWhile_cons, List.all_cons, Bool.and_eq_true]
    split
    · rw [ih, and_iff_right ‹_›]
    · exact ⟨fun h => absurd h (List.cons_ne_nil c t), fun h => absurd h.1 ‹_›⟩

theorem byteSize_sub_dropWhile (p : Char → Bool) (t : Text) :
    byteSize t - byteSize (t.dropWhile p) = byteSize (t.takeWhile p) := by
  have h := byteSize_append (t.takeWhile p) (t.dropWhile p)
  rw [List.takeWhile_append_dropWhile] at h
  rw [h, Nat.add_sub_cancel]

theorem dropWhile_eq_self (h : t.takeWhile p = []) : t.dropWhile p = t := by
  have hsplit := List.takeWhile_append_dropWhile (p := p) (l := t)
  rwa [h, List.nil_append] at hsplit

end TextParser.Text
