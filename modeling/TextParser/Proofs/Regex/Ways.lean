import TextParser.Regex.Matcher

/-!
The ways through a program, one after the other, as a reader tries them who takes the first branch
of every fork before the second. Main statement: a reader who never comes back to an instruction
without having taken a character still comes to every instruction that can be reached.

           fork ─first──▶ one a ─▶ …        ways   first the way by a,
             └───second─▶ one b ─▶ …               then the way by b

This is what a program means, and the matcher that follows all ways in step is measured by it.
-/

namespace TextParser.Regex.Program

variable {code : Program} {before after : Option Char} {seen : List Nat} {k m n : Nat}

/-! ### Single instructions -/

/-- Where instruction `n` goes on to without a character, between `before` and `after`. -/
def passesAt (code : Program) (before after : Option Char) (n : Nat) : List Nat :=
  match code[n]? with
  | some i => passes i before after
  | none => []

/-- Whether instruction `n` takes a character or accepts. -/
def waitsAt (code : Program) (n : Nat) : Bool := code[n]?.any waits

theorem passesAt_of_lt (hn : n < code.size) :
    code.passesAt before after n = passes code[n] before after := by
  rw [passesAt, Array.getElem?_eq_getElem hn]

theorem waitsAt_of_lt (hn : n < code.size) : code.waitsAt n = waits code[n] := by
  rw [waitsAt, Array.getElem?_eq_getElem hn, Option.any_some]

theorem lt_size_of_mem_passesAt (h : m ∈ code.passesAt before after n) : n < code.size := by
  refine Nat.lt_of_not_le fun hn => ?_
  rw [passesAt, Array.getElem?_eq_none hn] at h
  cases h

theorem lt_size_of_waitsAt (h : code.waitsAt n) : n < code.size := by
  refine Nat.lt_of_not_le fun hn => ?_
  rw [waitsAt, Array.getElem?_eq_none hn] at h
  cases h

/-- An instruction that waits does not go on. -/
theorem passesAt_of_waitsAt (h : code.waitsAt n) : code.passesAt before after n = [] := by
  have hn : n < code.size := lt_size_of_waitsAt h
  rw [waitsAt_of_lt hn] at h
  rw [passesAt_of_lt hn]
  cases hi : code[n] with
  | accept | one s next => rfl
  | look l next | fork first second => rw [hi] at h; cases h

/-! ### Ways in one place -/

/-- The instructions that wait at the ends of the ways from `n` between `before` and `after`, the
preferred way first. No way comes to an instruction twice; `seen` are those it has come through. -/
def ends (code : Program) (before after : Option Char) (seen : List Nat) (n : Nat) : List Nat :=
  if _hs : n ∈ seen then []
  else if _hn : n < code.size then
    let on := (passes code[n] before after).flatMap fun m => ends code before after (n :: seen) m
    if waits code[n] then n :: on else on
  else []
termination_by unseen code.size seen
decreasing_by exact unseen_cons_lt _hn _hs

theorem ends_of_mem (h : n ∈ seen) : code.ends before after seen n = [] := by
  rw [ends, dif_pos h]

theorem ends_of_waitsAt (hs : n ∉ seen) (h : code.waitsAt n) :
    code.ends before after seen n = [n] := by
  have hn : n < code.size := lt_size_of_waitsAt h
  have hp : passes code[n] before after = [] := by
    rw [← passesAt_of_lt hn, passesAt_of_waitsAt h]
  rw [waitsAt_of_lt hn] at h
  rw [ends, dif_neg hs, dif_pos hn, hp, if_pos h, List.flatMap_nil]

theorem ends_of_not_waitsAt (hs : n ∉ seen) (h : ¬ code.waitsAt n) :
    code.ends before after seen n =
      (code.passesAt before after n).flatMap (code.ends before after (n :: seen)) := by
  by_cases hn : n < code.size
  · rw [waitsAt_of_lt hn] at h
    rw [ends, dif_neg hs, dif_pos hn, if_neg h, passesAt_of_lt hn]
  · rw [ends, dif_neg hs, dif_neg hn, passesAt, Array.getElem?_eq_none (Nat.le_of_not_lt hn),
      List.flatMap_nil]

/-- Whether a way leads from `n` to `m` between `before` and `after`, past `seen`. -/
inductive Leads (code : Program) (before after : Option Char) (seen : List Nat) : Nat → Nat → Prop
  | here {n : Nat} (hs : n ∉ seen) : Leads code before after seen n n
  | pass {n k m : Nat} (hs : n ∉ seen) (hk : k ∈ code.passesAt before after n)
    (h : Leads code before after seen k m) : Leads code before after seen n m

namespace Leads

theorem mono {more : List Nat} (hsub : ∀ x ∈ seen, x ∈ more)
    (h : code.Leads before after more n m) : code.Leads before after seen n m := by
  induction h with
  | here hs => exact .here fun hx => hs (hsub _ hx)
  | pass hs hk _ ih => exact .pass (fun hx => hs (hsub _ hx)) hk ih

theorem start_not_mem (h : code.Leads before after seen n m) : n ∉ seen := by
  cases h <;> assumption

/-- A way to another instruction than `k` either keeps clear of `k`, or does so from where it goes
on after it has come to `k` for the last time. -/
theorem clear_or_after (k : Nat) (hm : m ≠ k) (h : code.Leads before after seen n m) :
    code.Leads before after (k :: seen) n m ∨
      ∃ j ∈ code.passesAt before after k, code.Leads before after (k :: seen) j m := by
  induction h with
  | here hs => exact .inl (.here (by simp [hm, hs]))
  | @pass n j m hs hj _ ih =>
    rcases ih hm with ih | ih
    · by_cases hn : n = k
      · subst hn
        exact .inr ⟨j, hj, ih⟩
      · exact .inl (.pass (by simp [hn, hs]) hj ih)
    · exact .inr ih

end Leads

/-- The ends of ways are just the waiting instructions that a way leads to. -/
theorem mem_ends_iff : m ∈ code.ends before after seen n ↔
    code.waitsAt m ∧ code.Leads before after seen n m := by
  induction h : unseen code.size seen using Nat.strongRecOn generalizing n seen with
  | ind u ih =>
    subst h
    by_cases hs : n ∈ seen
    · rw [ends_of_mem hs]
      simpa using fun _ hl => Leads.start_not_mem hl hs
    by_cases hw : code.waitsAt n
    · rw [ends_of_waitsAt hs hw, List.mem_singleton]
      constructor
      · rintro rfl
        exact ⟨hw, .here hs⟩
      · rintro ⟨-, hl⟩
        cases hl with
        | here => rfl
        | pass _ hk => rw [passesAt_of_waitsAt hw] at hk; cases hk
    rw [ends_of_not_waitsAt hs hw, List.mem_flatMap]
    constructor
    · rintro ⟨k, hk, hmem⟩
      have hlt := unseen_cons_lt (lt_size_of_mem_passesAt hk) hs
      obtain ⟨hm, hl⟩ := (ih _ hlt rfl).1 hmem
      exact ⟨hm, .pass hs hk (hl.mono fun x hx => List.mem_cons_of_mem _ hx)⟩
    · rintro ⟨hm, hl⟩
      have hne : m ≠ n := by
        rintro rfl
        exact hw hm
      -- the way from the last time it comes to `n`
      obtain hl | ⟨k, hk, hl⟩ := hl.clear_or_after n hne
      · exact absurd List.mem_cons_self hl.start_not_mem
      · have hlt := unseen_cons_lt (lt_size_of_mem_passesAt hk) hs
        exact ⟨k, hk, (ih _ hlt rfl).2 ⟨hm, hl⟩⟩

/-! ### Ways through a text -/

/-- The texts that the ways from `n` take from the front of a text until they accept, each with
the rest, the preferred way first. -/
def ways (code : Program) : Option Char → Text → Nat → List (Text × Text)
  | before, [], n =>
    (code.ends before none [] n).flatMap fun m => if code.accepts m then [([], [])] else []
  | before, c :: input, n =>
    (code.ends before (some c) [] n).flatMap fun m =>
      if code.accepts m then [([], c :: input)]
      else match code.advance c m with
        | some next => (ways code (some c) input next).map fun (text, rest) => (c :: text, rest)
        | none => []

end TextParser.Regex.Program
