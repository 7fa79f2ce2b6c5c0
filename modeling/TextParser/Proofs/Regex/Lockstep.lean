import TextParser.Proofs.Regex.Ways

/-!
The matcher follows all ways through a program in step, and never comes to an instruction twice in
one place, whichever way it comes by. Main statement: it still finds what the preferred way finds.

    way by way      fork ▶ 1 ▶ 3 ▶ …   then   fork ▶ 2 ▶ 3 ▶ …
    in step         fork ▶ 1 ▶ 3,  then 2, and 3 not again

What has been left behind without success stays without success: any way from there is either as
barren as before, or leads through an instruction of the way that is being followed.
-/

universe u

namespace TextParser.Regex.Program

variable {β : Type u} {code : Program} {before after : Option Char} {n m : Nat}
  {stack seen path more : List Nat}

/-! ### One instruction of the stack at a time -/

theorem follow_nil : code.follow before after [] seen = [] := by
  rw [follow]

theorem follow_of_mem (h : n ∈ seen) :
    code.follow before after (n :: stack) seen = code.follow before after stack seen := by
  rw [follow, dif_pos h]

theorem follow_of_waitsAt (hs : n ∉ seen) (h : code.waitsAt n) :
    code.follow before after (n :: stack) seen =
      n :: code.follow before after stack (n :: seen) := by
  have hn : n < code.size := lt_size_of_waitsAt h
  have hp : passes code[n] before after = [] := by
    rw [← passesAt_of_lt hn, passesAt_of_waitsAt h]
  rw [waitsAt_of_lt hn] at h
  rw [follow, dif_neg hs, dif_pos hn, hp, if_pos h, List.nil_append]

theorem follow_of_not_waitsAt (hs : n ∉ seen) (hn : n < code.size) (h : ¬ code.waitsAt n) :
    code.follow before after (n :: stack) seen =
      code.follow before after (code.passesAt before after n ++ stack) (n :: seen) := by
  rw [waitsAt_of_lt hn] at h
  rw [follow, dif_neg hs, dif_pos hn, if_neg h, passesAt_of_lt hn]

theorem follow_of_size_le (hs : n ∉ seen) (hn : ¬ n < code.size) :
    code.follow before after (n :: stack) seen = code.follow before after stack seen := by
  rw [follow, dif_neg hs, dif_neg hn]

/-! ### What has been left behind -/

/-- Whether no way from `n` past `path` ends where `g` finds something. -/
def Barren (code : Program) (before after : Option Char) (g : Nat → Option β) (path : List Nat)
    (n : Nat) : Prop :=
  (code.ends before after path n).findSome? g = none

/-- Whether all that has been seen is on the path or barren. -/
def Covers (code : Program) (before after : Option Char) (g : Nat → Option β)
    (path seen : List Nat) : Prop :=
  ∀ m ∈ seen, m ∈ path ∨ Barren code before after g path m

variable {g : Nat → Option β}

theorem Barren.eq_none (h : Barren code before after g path n) (hm : code.waitsAt m)
    (hl : code.Leads before after path n m) : g m = none :=
  List.findSome?_eq_none_iff.1 h m (mem_ends_iff.2 ⟨hm, hl⟩)

theorem Barren.findSome? (h : Barren code before after g path n) :
    (code.ends before after path n).findSome? g = none := h

theorem barren_of_size_le (hpath : n ∉ path) (hn : ¬ n < code.size) :
    Barren code before after g path n := by
  have hw : ¬ code.waitsAt n := fun hw => hn (lt_size_of_waitsAt hw)
  have hpass : code.passesAt before after n = [] :=
    List.eq_nil_iff_forall_not_mem.2 fun _ hm => hn (lt_size_of_mem_passesAt hm)
  rw [Barren, ends_of_not_waitsAt hpath hw, hpass, List.flatMap_nil, List.findSome?_nil]

theorem Barren.cons (h : Barren code before after g path m) (n : Nat) :
    Barren code before after g (n :: path) m := by
  refine List.findSome?_eq_none_iff.2 fun w hw => ?_
  obtain ⟨hwait, hl⟩ := mem_ends_iff.1 hw
  exact h.eq_none hwait (hl.mono fun x hx => List.mem_cons_of_mem _ hx)

/-- Once `n` itself turns out to be barren, it need not be kept clear of. -/
theorem Barren.of_cons (hn : Barren code before after g path n) (hpath : n ∉ path)
    (h : Barren code before after g (n :: path) m) : Barren code before after g path m := by
  refine List.findSome?_eq_none_iff.2 fun w hw => ?_
  obtain ⟨hwait, hl⟩ := mem_ends_iff.1 hw
  by_cases hwn : w = n
  · subst hwn
    exact hn.eq_none hwait (.here hpath)
  · obtain hl | ⟨j, hj, hl⟩ := hl.clear_or_after n hwn
    · exact h.eq_none hwait hl
    · exact hn.eq_none hwait (.pass hpath hj (hl.mono fun x hx => List.mem_cons_of_mem _ hx))

theorem Covers.barren_of_mem (h : Covers code before after g path seen) (hm : m ∈ seen) :
    Barren code before after g path m := by
  rcases h m hm with hp | hb
  · rw [Barren, ends_of_mem hp, List.findSome?_nil]
  · exact hb

theorem Covers.cons_path (h : Covers code before after g path seen) (n : Nat) :
    Covers code before after g (n :: path) (n :: seen) := by
  intro m hm
  rcases List.mem_cons.1 hm with rfl | hm
  · exact .inl List.mem_cons_self
  · exact (h m hm).imp (List.mem_cons_of_mem _) (Barren.cons · n)

theorem Covers.of_cons_path (h : Covers code before after g (n :: path) seen) (hpath : n ∉ path)
    (hn : Barren code before after g path n) : Covers code before after g path seen := by
  intro m hm
  rcases h m hm with hm | hm
  · rcases List.mem_cons.1 hm with rfl | hm
    · exact .inr hn
    · exact .inl hm
  · exact .inr (hn.of_cons hpath hm)

theorem Covers.cons (h : Covers code before after g path seen)
    (hn : Barren code before after g path n) : Covers code before after g path (n :: seen) := by
  intro m hm
  rcases List.mem_cons.1 hm with rfl | hm
  · exact .inr hn
  · exact h m hm

theorem unseen_le {size : Nat} {seen seen' : List Nat} (h : ∀ m ∈ seen, m ∈ seen') :
    unseen size seen' ≤ unseen size seen := by
  rw [unseen, unseen, ← List.countP_eq_length_filter, ← List.countP_eq_length_filter]
  refine List.countP_mono_left fun m _ hm => ?_
  simp only [decide_eq_true_eq] at hm ⊢
  exact fun hs => hm (h m hs)

/-- Whether following `stack`, on top of `more`, finds what the ways from the instructions on it
find past `path`; and if that is nothing, whether `more` is then followed with all that has been
seen still covered. -/
def FollowsAs (code : Program) (before after : Option Char) (g : Nat → Option β)
    (path stack more seen : List Nat) : Prop :=
  ∃ seen' : List Nat, (∀ m ∈ seen, m ∈ seen') ∧
    (code.follow before after (stack ++ more) seen).findSome? g =
      ((stack.flatMap (code.ends before after path)).findSome? g).or
        ((code.follow before after more seen').findSome? g) ∧
    ((stack.flatMap (code.ends before after path)).findSome? g = none →
      Covers code before after g path seen')

/-- What is found from the first instruction of a stack is found. -/
theorem FollowsAs.of_found {b : β} (hn : (code.ends before after path n).findSome? g = some b)
    (hfollow : (code.follow before after (n :: stack ++ more) seen).findSome? g = some b) :
    FollowsAs code before after g path (n :: stack) more seen := by
  refine ⟨seen, fun _ => id, ?_⟩
  rw [hfollow, List.flatMap_cons, List.findSome?_append, hn, Option.some_or, Option.some_or]
  exact ⟨rfl, by rintro ⟨⟩⟩

/-- With nothing from the first instruction of a stack, the others are followed. -/
theorem FollowsAs.of_barren {seen₁ : List Nat} (hn : Barren code before after g path n)
    (hsub : ∀ m ∈ seen, m ∈ seen₁) (h : FollowsAs code before after g path stack more seen₁)
    (hfollow : (code.follow before after (n :: stack ++ more) seen).findSome? g =
      (code.follow before after (stack ++ more) seen₁).findSome? g) :
    FollowsAs code before after g path (n :: stack) more seen := by
  obtain ⟨seen', hsub', hfind, hcover'⟩ := h
  refine ⟨seen', fun m hm => hsub' m (hsub m hm), ?_⟩
  rw [hfollow, List.flatMap_cons, List.findSome?_append, Barren.findSome? hn, Option.none_or]
  exact ⟨hfind, hcover'⟩

theorem followsAs (hpath : ∀ m ∈ path, m ∈ seen) (hcover : Covers code before after g path seen) :
    FollowsAs code before after g path stack more seen := by
  induction h : 2 * unseen code.size seen + stack.length using Nat.strongRecOn
    generalizing stack seen path more with
  | ind size ih =>
    subst h
    cases stack with
    | nil => exact ⟨seen, fun _ => id, rfl, fun _ => hcover⟩
    | cons n stack =>
      by_cases hs : n ∈ seen
      · refine .of_barren (hcover.barren_of_mem hs) (fun _ => id) ?_ ?_
        · exact ih _ (by simp) hpath hcover rfl
        · rw [List.cons_append, follow_of_mem hs]
      have hp : n ∉ path := fun hp => hs (hpath n hp)
      by_cases hlt : n < code.size
      · have hless := unseen_cons_lt hlt hs
        by_cases hw : code.waitsAt n
        · have hends : (code.ends before after path n).findSome? g = g n := by
            rw [ends_of_waitsAt hp hw, List.findSome?_singleton]
          have hfollow : (code.follow before after (n :: stack ++ more) seen).findSome? g =
              (g n).or ((code.follow before after (stack ++ more) (n :: seen)).findSome? g) := by
            rw [List.cons_append, follow_of_waitsAt hs hw, List.findSome?_cons]
            cases g n <;> rfl
          cases hg : g n with
          | some b => exact .of_found (hends.trans hg) (by rw [hfollow, hg, Option.some_or])
          | none =>
            have hn : Barren code before after g path n := hends.trans hg
            have hsub : ∀ m ∈ seen, m ∈ n :: seen := fun _ => List.mem_cons_of_mem _
            refine .of_barren hn hsub ?_ (by rw [hfollow, hg, Option.none_or])
            exact ih _ (by simp only [List.length_cons]; omega) (fun m hm => hsub m (hpath m hm))
              (hcover.cons hn) rfl
        · have hends : code.ends before after path n =
              (code.passesAt before after n).flatMap (code.ends before after (n :: path)) :=
            ends_of_not_waitsAt hp hw
          have hshort : (code.passesAt before after n).length ≤ 2 := by
            rw [passesAt_of_lt hlt]
            exact length_passes_le ..
          obtain ⟨seen₁, hsub₁, hfind, hcover₁⟩ :
              FollowsAs code before after g (n :: path) (code.passesAt before after n)
                (stack ++ more) (n :: seen) :=
            ih _ (by simp only [List.length_cons]; omega) (List.cons_subset_cons n hpath)
              (hcover.cons_path n) rfl
          rw [← follow_of_not_waitsAt hs hlt hw, ← hends] at hfind
          rw [← hends] at hcover₁
          cases hf : (code.ends before after path n).findSome? g with
          | some b => exact .of_found hf (by rw [List.cons_append, hfind, hf, Option.some_or])
          | none =>
            have hsub : ∀ m ∈ seen, m ∈ seen₁ := fun m hm => hsub₁ m (List.mem_cons_of_mem _ hm)
            have hle : unseen code.size seen₁ ≤ unseen code.size seen := unseen_le hsub
            refine .of_barren hf hsub ?_ (by rw [List.cons_append, hfind, hf, Option.none_or])
            exact ih _ (by simp only [List.length_cons]; omega) (fun m hm => hsub m (hpath m hm))
              ((hcover₁ hf).of_cons_path hp hf) rfl
      · refine .of_barren (barren_of_size_le hp hlt) (fun _ => id) ?_ ?_
        · exact ih _ (by simp) hpath hcover rfl
        · rw [List.cons_append, follow_of_size_le hs hlt]

/-- The instructions reached in step hold the same first find as the ends of all ways. -/
theorem findSome?_reach (code : Program) (before after : Option Char) (g : Nat → Option β)
    (starts : List Nat) :
    (code.reach before after starts).findSome? g =
      (starts.flatMap (code.ends before after [])).findSome? g := by
  obtain ⟨seen', -, hfind, -⟩ : FollowsAs code before after g [] starts [] [] :=
    followsAs (fun _ => id) (by rintro _ ⟨⟩)
  rw [List.append_nil, follow_nil, List.findSome?_nil, Option.or_none] at hfind
  exact hfind

/-! ### Running -/

/-- What lies behind the first accept need not be followed: `taken` are the ways after the next
character, `here` is the match in front of it. -/
theorem findSome?_cut (accepts : Nat → Bool) (advance : Nat → Option Nat) (here : Text × Text)
    (taken : Nat → List (Text × Text)) (reached : List Nat) :
    (reached.findSome? fun n => List.head? <|
      if accepts n then [here]
      else match advance n with
        | some next => taken next
        | none => []) =
    ((((reached.takeWhile fun n => !accepts n).filterMap advance).flatMap taken).head?).or
      (if reached.any accepts then some here else none) := by
  induction reached with
  | nil => rfl
  | cons n reached ih =>
    rw [List.findSome?_cons, ih, List.any_cons, List.takeWhile_cons]
    cases ha : accepts n with
    | true => simp
    | false =>
      cases hn : advance n with
      | none => simp [hn]
      | some next =>
        simp only [Bool.false_eq_true, if_false, Bool.not_false, if_true, Bool.false_or,
          List.filterMap_cons, hn, List.flatMap_cons, List.head?_append]
        cases (taken next).head? <;> simp

/-- All ways in step find what the preferred way finds. -/
theorem run_eq_head?_ways (code : Program) : ∀ (input : Text) (starts : List Nat)
    (before : Option Char),
    code.run starts before input = (starts.flatMap (code.ways before input)).head?
  | [], starts, before => by
    have hways : starts.flatMap (code.ways before []) =
        (starts.flatMap (code.ends before none [])).flatMap
          fun m => if code.accepts m then [([], [])] else [] := by
      rw [List.flatMap_assoc]
      rfl
    rw [hways, List.head?_flatMap, ← findSome?_reach, run]
    have hcut := findSome?_cut code.accepts (fun _ => none) ([], []) (fun _ => [])
      (code.reach before none starts)
    rw [List.flatMap_eq_nil_iff.2 fun _ _ => rfl, List.head?_nil, Option.none_or] at hcut
    exact hcut.symm
  | c :: input, starts, before => by
    let onward (next : Nat) : List (Text × Text) :=
      (code.ways (some c) input next).map fun m => (c :: m.1, m.2)
    have hways : starts.flatMap (code.ways before (c :: input)) =
        (starts.flatMap (code.ends before (some c) [])).flatMap fun m =>
          if code.accepts m then [([], c :: input)]
          else match code.advance c m with
            | some next => onward next
            | none => [] := by
      rw [List.flatMap_assoc]
      rfl
    rw [hways, List.head?_flatMap, ← findSome?_reach,
      findSome?_cut code.accepts (code.advance c) ([], c :: input) onward, run]
    generalize ((code.reach before (some c) starts).takeWhile fun n => !code.accepts n).filterMap
      (code.advance c) = next
    have honward : (next.flatMap onward).head? =
        (code.run next (some c) input).map fun m => (c :: m.1, m.2) := by
      rw [run_eq_head?_ways code input next (some c), ← List.head?_map, List.map_flatMap]
    rw [honward]
    cases next with
    | nil =>
      rw [run_eq_head?_ways code input [] (some c)]
      rfl
    | cons n next =>
      cases hr : code.run (n :: next) (some c) input with
      | none => simp only [hr, Option.map_none, Option.none_or]
      | some m => simp only [hr, Option.map_some, Option.some_or]

end TextParser.Regex.Program
