import TextParser.Proofs.Regex.Lockstep
import TextParser.Proofs.Regex.Matches
import TextParser.Proofs.Regex.Split

/-!
Matches at the front of a text. Main statement: a pattern tied to the start of the text and a
leftmost search for the pattern itself find the same match at the front, the preferred one.

    ^p       0 … n  as for p,  n+1  look for the start, then p
    search   p at the front; only if there is none, p further on
-/

namespace TextParser.Regex

/-- What the pattern matches at the front of a text with the character `before` in front of it, each
match cut into the text matched and the rest, the preferred one first. -/
def Pattern.ways (p : Pattern) (before : Option Char) (input : Text) : List (Text × Text) :=
  (Program.ofPattern p).code.ways before input (Program.ofPattern p).start

theorem Pattern.mem_ways_iff {p : Pattern} {before : Option Char} {input text rest : Text} :
    (text, rest) ∈ p.ways before input ↔ input = text ++ rest ∧ p.Matches before text rest :=
  Program.mem_ways_ofPattern_iff p

theorem matchHere_ofPattern (p : Pattern) (before : Option Char) (input : Text) :
    (ofPattern p).matchHere before input = (p.ways before input).head? := by
  rw [matchHere, ofPattern, Program.run_eq_head?_ways, List.flatMap_singleton, Pattern.ways]

namespace Program

variable {code : Program} {before after : Option Char} {n m : Nat}

/-! ### An instruction more -/

theorem getElem?_push_of_lt (i : Instruction) (hn : n < code.size) :
    (code.push i)[n]? = code[n]? :=
  (Grows.push code i).getElem?_eq n hn

theorem passesAt_push (i : Instruction) (hn : n < code.size) :
    passesAt (code.push i) before after n = code.passesAt before after n := by
  rw [passesAt, passesAt, getElem?_push_of_lt i hn]

theorem waitsAt_push (i : Instruction) (hn : n < code.size) :
    waitsAt (code.push i) n = code.waitsAt n := by
  rw [waitsAt, waitsAt, getElem?_push_of_lt i hn]

theorem lt_size_of_mem_passesAt_of_closed (hc : code.Closed)
    (hm : m ∈ code.passesAt before after n) : m < code.size := by
  rw [passesAt] at hm
  split at hm
  · rename_i i hi
    refine hc n i hi m ?_
    cases i with
    | look l next =>
      simp only [passes] at hm
      split at hm
      · exact hm
      · cases hm
    | fork first second => exact hm
    | one s next | accept => cases hm
  · cases hm

/-- An instruction put at the end of a program that never points there changes no way. -/
theorem ends_push (hc : code.Closed) (i : Instruction) {seen seen' : List Nat}
    (hseen : ∀ m < code.size, m ∈ seen ↔ m ∈ seen') (hn : n < code.size) :
    ends (code.push i) before after seen n = code.ends before after seen' n := by
  induction h : unseen code.size seen' using Nat.strongRecOn generalizing n seen seen' with
  | ind u ih =>
    subst h
    by_cases hs : n ∈ seen
    · rw [ends_of_mem hs, ends_of_mem ((hseen n hn).1 hs)]
    have hs' : n ∉ seen' := fun h => hs ((hseen n hn).2 h)
    by_cases hw : code.waitsAt n
    · rw [ends_of_waitsAt hs ((waitsAt_push i hn).trans hw), ends_of_waitsAt hs' hw]
    · have hw' : ¬ waitsAt (code.push i) n := by rwa [waitsAt_push i hn]
      rw [ends_of_not_waitsAt hs hw', ends_of_not_waitsAt hs' hw, passesAt_push i hn,
        List.flatMap_def, List.flatMap_def]
      congr 1
      refine List.map_congr_left fun m hm => ?_
      refine ih _ (unseen_cons_lt hn hs') (fun k hk => ?_)
        (lt_size_of_mem_passesAt_of_closed hc hm) rfl
      rw [List.mem_cons, List.mem_cons, hseen k hk]

theorem ways_push (hc : code.Closed) (i : Instruction) (before : Option Char) (input : Text)
    (hn : n < code.size) :
    ways (code.push i) before input n = code.ways before input n := by
  induction input generalizing before n with
  | nil =>
    rw [ways, ways, ends_push hc i (fun _ _ => Iff.rfl) hn, List.flatMap_def, List.flatMap_def]
    congr 1
    refine List.map_congr_left fun m hm => ?_
    rw [accepts, getElem?_push_of_lt i (lt_size_of_waitsAt (mem_ends_iff.1 hm).1), ← accepts]
  | cons c input ih =>
    rw [ways, ways, ends_push hc i (fun _ _ => Iff.rfl) hn, List.flatMap_def, List.flatMap_def]
    congr 1
    refine List.map_congr_left fun m hm => ?_
    have hget := getElem?_push_of_lt i (lt_size_of_waitsAt (mem_ends_iff.1 hm).1)
    rw [accepts, advance, hget, ← accepts, ← advance]
    cases ha : code.advance c m with
    | none => rfl
    | some next =>
      have hnext : next < code.size := by
        rw [advance] at ha
        split at ha
        · rename_i s k hk
          split at ha
          · cases ha
            exact hc m _ hk next (List.mem_singleton.2 rfl)
          · cases ha
        · cases ha
      simp only [ih (some c) hnext]

end Program

/-! ### Tied to the start -/

/-- A pattern tied to the start of the text matches as the pattern itself does there. -/
theorem Pattern.ways_anchored (p : Pattern) (input : Text) :
    (Pattern.seq (.look .textStart) p).ways none input = p.ways none input := by
  have hc := Program.closed_ofPattern p
  have hstart := Program.start_lt_ofPattern p
  have hends (after : Option Char) :
      Program.ends ((Program.ofPattern p).code.push (.look .textStart (Program.ofPattern p).start))
        none after [] (Program.ofPattern p).code.size =
      (Program.ofPattern p).code.ends none after [] (Program.ofPattern p).start := by
    have hlook : ((Program.ofPattern p).code.push
        (.look .textStart (Program.ofPattern p).start))[(Program.ofPattern p).code.size]? =
        some (.look .textStart (Program.ofPattern p).start) := by simp
    rw [Program.ends_of_not_waitsAt List.not_mem_nil (by simp [Program.waitsAt, Program.waits]),
      Program.passesAt, hlook]
    simp only [Program.passes, Look.holds, Option.isNone_none, if_true, List.flatMap_singleton]
    refine Program.ends_push hc _ (fun m hm => ?_) hstart
    rw [List.mem_singleton, List.mem_nil_iff, iff_false]
    exact Nat.ne_of_lt hm
  have hpush := Program.ways_push hc
    (.look .textStart (Program.ofPattern p).start) none input hstart
  rw [Pattern.ways, Pattern.ways, ← hpush]
  -- both begin with the ends of the ways from where the pattern itself is entered
  have hentry : Program.ofPattern (.seq (.look .textStart) p) =
      ⟨(Program.ofPattern p).code.size,
        (Program.ofPattern p).code.push (.look .textStart (Program.ofPattern p).start)⟩ := rfl
  rw [hentry]
  cases input with
  | nil =>
    rw [Program.ways, Program.ways, hends,
      Program.ends_push hc _ (fun _ _ => Iff.rfl) hstart]
  | cons c input =>
    rw [Program.ways, Program.ways, hends,
      Program.ends_push hc _ (fun _ _ => Iff.rfl) hstart]

/-! ### Searching -/

/-- A leftmost search stops at the front just when there is a match. -/
theorem find?_eq_front_iff {r : Regex} {input text rest : Text} :
    r.find? input = some ⟨[], text, rest⟩ ↔ r.matchHere none input = some (text, rest) := by
  rw [find?]
  split
  · rw [Option.map_eq_some_iff]
    constructor
    · rintro ⟨⟨_, _⟩, h, ⟨⟩⟩
      exact h
    · intro h
      exact ⟨_, h, rfl⟩
  · constructor
    · intro h
      cases hm : r.matchHere none input with
      | some m =>
        obtain ⟨text', rest'⟩ := m
        rw [search_of_match hm] at h
        cases h
        rfl
      | none =>
        cases input with
        | nil => rw [search_nil_of_no_match hm] at h; cases h
        | cons c input =>
          rw [search_cons_of_no_match hm] at h
          obtain ⟨later, -, hl⟩ := Option.map_eq_some_iff.1 h
          cases hl
    · exact search_of_match

end TextParser.Regex
