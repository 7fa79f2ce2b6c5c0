import TextParser.Proofs.Regex.Layout
import TextParser.Proofs.Regex.Ways

/-!
What a pattern matches, told from its parts and without a program. Main statement: the ways through
the program of a pattern take exactly the texts that the pattern matches.

    text     … before | u     | v     | rest
    seq p q             p on u, in front of v and rest
                                q on v, behind u
-/

namespace TextParser.Regex

/-! ### Matches -/

/-- Whether the pattern matches `text` with the character `before` in front of it and `rest` after
it. -/
inductive Pattern.Matches : Pattern → (before : Option Char) → (text rest : Text) → Prop
  | empty (before : Option Char) (rest : Text) : Matches .empty before [] rest
  | set {s : CharSet} {c : Char} (h : s.contains c) (before : Option Char) (rest : Text) :
    Matches (.set s) before [c] rest
  | look {l : Look} {before : Option Char} {rest : Text} (h : l.holds before rest.head?) :
    Matches (.look l) before [] rest
  | seq {p q : Pattern} {before : Option Char} {u v rest : Text}
    (hp : p.Matches before u (v ++ rest)) (hq : q.Matches (u.getLast?.or before) v rest) :
    Matches (.seq p q) before (u ++ v) rest
  | left {p : Pattern} (q : Pattern) {before : Option Char} {text rest : Text}
    (hp : p.Matches before text rest) : Matches (.alt p q) before text rest
  | right (p : Pattern) {q : Pattern} {before : Option Char} {text rest : Text}
    (hq : q.Matches before text rest) : Matches (.alt p q) before text rest
  /-- No round, where none is needed. -/
  | none (p : Pattern) (max : Option Nat) (greedy : Bool) (before : Option Char) (rest : Text) :
    Matches (.times p 0 max greedy) before [] rest
  /-- A round and others after it, where one is needed or may be had. -/
  | round {p : Pattern} {min : Nat} {max : Option Nat} {greedy : Bool} {before : Option Char}
    {u v rest : Text} (h : 0 < min ∨ max ≠ some 0) (hp : p.Matches before u (v ++ rest))
    (hmore : Matches (.times p (min - 1) (max.map (· - 1)) greedy) (u.getLast?.or before) v rest) :
    Matches (.times p min max greedy) before (u ++ v) rest

namespace Program

variable {code : Program} {before : Option Char} {input text rest u v : Text} {p q : Pattern}
  {j k m n next : Nat} {greedy : Bool}

/-! ### Walks -/

/-- Whether `k` steps from instruction `n` can take `text` in front of `rest` and accept. -/
inductive Walk (code : Program) : (k : Nat) → (before : Option Char) → (n : Nat) →
    (text rest : Text) → Prop
  | accept {n : Nat} (h : code.accepts n) (before : Option Char) (rest : Text) :
    Walk code 0 before n [] rest
  | pass {k : Nat} {before : Option Char} {n m : Nat} {text rest : Text}
    (hm : m ∈ code.passesAt before (text ++ rest).head? n) (h : Walk code k before m text rest) :
    Walk code (k + 1) before n text rest
  | one {k : Nat} {c : Char} {n m : Nat} {text rest : Text} (hm : code.advance c n = some m)
    (h : Walk code k (some c) m text rest) (before : Option Char) :
    Walk code (k + 1) before n (c :: text) rest

theorem waitsAt_of_accepts (h : code.accepts n) : code.waitsAt n := by
  simp only [accepts, beq_iff_eq] at h
  rw [waitsAt, h]
  rfl

theorem waitsAt_of_advance {c : Char} (h : code.advance c n = some m) : code.waitsAt n := by
  rw [advance] at h
  split at h
  · rename_i s next hi
    rw [waitsAt, hi]
    rfl
  · cases h

theorem advance_of_accepts {c : Char} (h : code.accepts n) : code.advance c n = none := by
  simp only [accepts, beq_iff_eq] at h
  rw [advance, h]

/-- A walk goes on from wherever a way leads without a character. -/
theorem Walk.of_leads {after : Option Char} {seen : List Nat}
    (hl : code.Leads before after seen n m) (hafter : after = (text ++ rest).head?)
    (h : code.Walk k before m text rest) : ∃ j, code.Walk j before n text rest := by
  induction hl with
  | here => exact ⟨k, h⟩
  | pass _ hk _ ih =>
    obtain ⟨j, hj⟩ := ih h
    exact ⟨j + 1, .pass (hafter ▸ hk) hj⟩

/-- What the ways take is walked through. -/
theorem exists_walk_of_mem_ways (h : (text, rest) ∈ code.ways before input n) :
    input = text ++ rest ∧ ∃ k, code.Walk k before n text rest := by
  induction input generalizing before n text with
  | nil =>
    obtain ⟨m, hm, h⟩ := List.mem_flatMap.1 h
    obtain ⟨-, hl⟩ := mem_ends_iff.1 hm
    split at h
    · cases List.mem_singleton.1 h
      exact ⟨rfl, Walk.of_leads hl rfl (.accept ‹_› before [])⟩
    · cases h
  | cons c input ih =>
    obtain ⟨m, hm, h⟩ := List.mem_flatMap.1 h
    obtain ⟨-, hl⟩ := mem_ends_iff.1 hm
    split at h
    · cases List.mem_singleton.1 h
      exact ⟨rfl, Walk.of_leads hl rfl (.accept ‹_› before _)⟩
    · split at h
      · obtain ⟨⟨taken, left⟩, hmem, he⟩ := List.mem_map.1 h
        cases he
        obtain ⟨rfl, k, hk⟩ := ih hmem
        exact ⟨rfl, Walk.of_leads hl rfl (.one ‹_› hk before)⟩
      · cases h

/-- A walk is taken by a way: its steps in one place lead to where it waits, and from there on it
is taken by induction. -/
theorem mem_ways_of_walk (h : code.Walk k before n text rest) :
    (text, rest) ∈ code.ways before (text ++ rest) n := by
  suffices hsuff : ∃ m, code.Leads before (text ++ rest).head? [] n m ∧ code.waitsAt m ∧
      ∀ n', m ∈ code.ends before (text ++ rest).head? [] n' →
        (text, rest) ∈ code.ways before (text ++ rest) n' by
    obtain ⟨m, hl, hw, hmem⟩ := hsuff
    exact hmem n (mem_ends_iff.2 ⟨hw, hl⟩)
  induction h with
  | @accept n ha before rest =>
    refine ⟨n, .here List.not_mem_nil, waitsAt_of_accepts ha, fun n' hn' => ?_⟩
    cases rest with
    | nil => exact List.mem_flatMap.2 ⟨n, hn', by simp [ha]⟩
    | cons c rest => exact List.mem_flatMap.2 ⟨n, hn', by simp [ha]⟩
  | pass hm _ ih =>
    obtain ⟨w, hl, hw, hmem⟩ := ih
    exact ⟨w, .pass List.not_mem_nil hm hl, hw, hmem⟩
  | @one k c n m text rest hm _ before ih =>
    obtain ⟨w, hl, hw, hmem⟩ := ih
    refine ⟨n, .here List.not_mem_nil, waitsAt_of_advance hm, fun n' hn' => ?_⟩
    have hna : ¬ code.accepts n := fun ha => by rw [advance_of_accepts ha] at hm; cases hm
    have htaken : (text, rest) ∈ code.ways (some c) (text ++ rest) m :=
      hmem m (mem_ends_iff.2 ⟨hw, hl⟩)
    refine List.mem_flatMap.2 ⟨n, hn', ?_⟩
    rw [if_neg hna, hm]
    exact List.mem_map.2 ⟨_, htaken, rfl⟩

/-! ### From matches to walks -/

theorem mem_passesAt_choose {after : Option Char} {more leave : Nat}
    (h : code[n]? = some (choose greedy more leave)) :
    m ∈ code.passesAt before after n ↔ m = more ∨ m = leave := by
  rw [passesAt, h]
  cases greedy <;> simp [choose, passes, or_comm]

theorem mem_passesAt_fork {after : Option Char} {first second : Nat}
    (h : code[n]? = some (.fork first second)) :
    m ∈ code.passesAt before after n ↔ m = first ∨ m = second := by
  rw [passesAt, h]
  simp [passes]

theorem mem_passesAt_look {after : Option Char} {l : Look} (h : code[n]? = some (.look l next)) :
    m ∈ code.passesAt before after n ↔ l.holds before after ∧ m = next := by
  rw [passesAt, h]
  simp only [passes]
  split <;> simp_all

theorem advance_of_one {s : CharSet} {c : Char} (h : code[n]? = some (.one s next)) :
    code.advance c n = some m ↔ s.contains c ∧ next = m := by
  rw [advance, h]
  simp

/-- A match of a pattern can be walked through where the pattern is laid out. -/
theorem exists_walk_of_matches (hm : p.Matches before u (v ++ rest)) :
    ∀ {n m k : Nat}, Laid code p n m → code.Walk k (u.getLast?.or before) m v rest →
      ∃ j, code.Walk j before n (u ++ v) rest := by
  generalize hw : v ++ rest = w at hm
  induction hm generalizing v with
  | empty =>
    rintro n m k ⟨⟩ h
    exact ⟨k, h⟩
  | set hc before =>
    rintro n m k hlaid h
    cases hlaid with
    | set hi => exact ⟨k + 1, .one ((advance_of_one hi).2 ⟨hc, rfl⟩) h before⟩
  | look hholds =>
    subst hw
    rintro n m k hlaid h
    cases hlaid with
    | look hi => exact ⟨k + 1, .pass ((mem_passesAt_look hi).2 ⟨hholds, rfl⟩) h⟩
  | seq _ _ ihp ihq =>
    subst hw
    rintro n m k hlaid h
    cases hlaid with
    | seq hlp hlq =>
      rw [List.getLast?_append, Option.or_assoc] at h
      obtain ⟨j, hj⟩ := ihq rfl hlq h
      rw [List.append_assoc]
      exact ihp (List.append_assoc ..) hlp hj
  | left q _ ih =>
    rintro n m k hlaid h
    cases hlaid with
    | alt hi hlp hlq =>
      obtain ⟨j, hj⟩ := ih hw hlp h
      exact ⟨j + 1, .pass ((mem_passesAt_fork hi).2 (.inl rfl)) hj⟩
  | right p _ ih =>
    rintro n m k hlaid h
    cases hlaid with
    | alt hi hlp hlq =>
      obtain ⟨j, hj⟩ := ih hw hlq h
      exact ⟨j + 1, .pass ((mem_passesAt_fork hi).2 (.inr rfl)) hj⟩
  | none =>
    rintro n m k hlaid h
    cases hlaid with
    | done => exact ⟨k, h⟩
    | option hi | loopFork hi | optionLoop hi =>
      exact ⟨k + 1, .pass ((mem_passesAt_choose hi).2 (.inr rfl)) h⟩
  | @round p min max greedy before u u' w hr _ _ ihp ihmore =>
    subst hw
    rintro n m k hlaid h
    rw [List.getLast?_append, Option.or_assoc] at h
    rw [List.append_assoc]
    -- a round from where the body starts, if the others can be walked from where it ends
    have walk {start stop : Nat} (hbody : Laid code p start stop)
        (hothers : Laid code (.times p (min - 1) (max.map (· - 1)) greedy) stop m) :
        ∃ j, code.Walk j before start (u ++ (u' ++ v)) rest := by
      obtain ⟨j, hj⟩ := ihmore rfl hothers h
      exact ihp (List.append_assoc ..) hbody hj
    -- and in front of it the fork that leads to it
    have fork {n start leave : Nat} (hi : code[n]? = some (choose greedy start leave))
        (hwalk : ∃ j, code.Walk j before start (u ++ (u' ++ v)) rest) :
        ∃ j, code.Walk j before n (u ++ (u' ++ v)) rest := by
      obtain ⟨j, hj⟩ := hwalk
      exact ⟨j + 1, .pass ((mem_passesAt_choose hi).2 (.inl rfl)) hj⟩
    cases hlaid with
    | done => simp at hr
    | round hbody hothers => exact walk hbody hothers
    | option hi hbody hothers => exact fork hi (walk hbody hothers)
    | loop hi hbody => exact walk hbody (.loopFork hi hbody)
    | loopFork hi hbody => exact fork hi (walk hbody (.loopFork hi hbody))
    | optionLoop hi hloop =>
      refine fork hi ?_
      cases hloop with
      | round hbody hothers => exact walk hbody hothers
      | loop hfork hbody => exact walk hbody (.loopFork hfork hbody)

/-! ### From walks to matches -/

/-- Whether every walk of at most `k` steps from `n` begins with a match of `p`, and goes on from
`m` with no more steps than it had. -/
def Passes (code : Program) (p : Pattern) (n m k : Nat) : Prop :=
  ∀ ⦃j : Nat⦄ ⦃before : Option Char⦄ ⦃text rest : Text⦄, j ≤ k →
    code.Walk j before n text rest →
    ∃ u v i, text = u ++ v ∧ i ≤ j ∧ p.Matches before u (v ++ rest) ∧
      code.Walk i (u.getLast?.or before) m v rest

/-- A walk from an instruction that does not wait passes to another one. -/
theorem Walk.of_not_waitsAt (hn : ¬ code.waitsAt n) (hw : code.Walk k before n text rest) :
    ∃ j m, k = j + 1 ∧ m ∈ code.passesAt before (text ++ rest).head? n ∧
      code.Walk j before m text rest := by
  cases hw with
  | accept h => exact absurd (waitsAt_of_accepts h) hn
  | pass hm h => exact ⟨_, _, rfl, hm, h⟩
  | one hm => exact absurd (waitsAt_of_advance hm) hn

theorem not_waitsAt_choose {more leave : Nat} (h : code[n]? = some (choose greedy more leave)) :
    ¬ code.waitsAt n := by
  rw [waitsAt, h]
  cases greedy <;> simp [choose, waits]

/-- A walk from a fork goes on one of its ways. -/
theorem Walk.of_choose {more leave : Nat} (h : code[n]? = some (choose greedy more leave))
    (hw : code.Walk k before n text rest) : ∃ j, k = j + 1 ∧
      (code.Walk j before more text rest ∨ code.Walk j before leave text rest) := by
  obtain ⟨j, m, rfl, hm, hw⟩ := hw.of_not_waitsAt (not_waitsAt_choose h)
  rcases (mem_passesAt_choose h).1 hm with rfl | rfl
  · exact ⟨j, rfl, .inl hw⟩
  · exact ⟨j, rfl, .inr hw⟩

/-- A round, and the others after it. -/
theorem Passes.round {min : Nat} {max : Option Nat} (hr : 0 < min ∨ max ≠ some 0)
    (hp : Passes code p n m k)
    (hmore : Passes code (.times p (min - 1) (max.map (· - 1)) greedy) m next k) :
    Passes code (.times p min max greedy) n next k := by
  intro j before text rest hj hw
  obtain ⟨u, w, i, rfl, hi, hu, hw⟩ := hp hj hw
  obtain ⟨v, w, i', rfl, hi', hv, hw⟩ := hmore (Nat.le_trans hi hj) hw
  rw [← Option.or_assoc, ← List.getLast?_append] at hw
  refine ⟨u ++ v, w, i', (List.append_assoc ..).symm, Nat.le_trans hi' hi, .round hr ?_ hv, hw⟩
  rwa [List.append_assoc] at hu

/-- At a fork, a repetition either has another round or is left. -/
theorem Passes.of_choose {max : Option Nat} {start : Nat}
    (h : code[n]? = some (choose greedy start next))
    (hmore : ∀ i < k, Passes code (.times p 0 max greedy) start next i) :
    Passes code (.times p 0 max greedy) n next k := by
  intro j before text rest hj hw
  obtain ⟨i, rfl, hw | hw⟩ := hw.of_choose h
  · obtain ⟨u, v, i', rfl, hi', hu, hw⟩ := hmore i hj (Nat.le_refl i) hw
    exact ⟨u, v, i', rfl, Nat.le_succ_of_le hi', hu, hw⟩
  · exact ⟨[], text, i, rfl, Nat.le_succ i, .none p max greedy before _, hw⟩

theorem Passes.empty (n k : Nat) : Passes code .empty n n k :=
  fun j before text _ _ hw => ⟨[], text, j, rfl, Nat.le_refl j, .empty before _, hw⟩

theorem Passes.set {s : CharSet} (h : code[n]? = some (.one s next)) :
    Passes code (.set s) n next k := by
  intro j before text rest _ hw
  cases hw with
  | accept ha => simp [accepts, h] at ha
  | pass hm => rw [passesAt, h] at hm; cases hm
  | @one j c _ _ text rest hm hw =>
    obtain ⟨hc, rfl⟩ := (advance_of_one h).1 hm
    exact ⟨[c], text, j, rfl, Nat.le_succ j, .set hc before _, hw⟩

theorem Passes.look {l : Look} (h : code[n]? = some (.look l next)) :
    Passes code (.look l) n next k := by
  intro j before text rest _ hw
  obtain ⟨j, m, rfl, hm, hw⟩ := hw.of_not_waitsAt (by rw [waitsAt, h]; simp [waits])
  obtain ⟨hholds, rfl⟩ := (mem_passesAt_look h).1 hm
  exact ⟨[], text, j, rfl, Nat.le_succ j, .look hholds, hw⟩

theorem Passes.seq (hp : Passes code p n m k) (hq : Passes code q m next k) :
    Passes code (.seq p q) n next k := by
  intro j before text rest hj hw
  obtain ⟨u, w, i, rfl, hi, hu, hw⟩ := hp hj hw
  obtain ⟨v, w, i', rfl, hi', hv, hw⟩ := hq (Nat.le_trans hi hj) hw
  rw [← Option.or_assoc, ← List.getLast?_append] at hw
  refine ⟨u ++ v, w, i', (List.append_assoc ..).symm, Nat.le_trans hi' hi, .seq ?_ hv, hw⟩
  rwa [List.append_assoc] at hu

theorem Passes.alt {first second : Nat} (h : code[n]? = some (.fork first second))
    (hp : Passes code p first next k) (hq : Passes code q second next k) :
    Passes code (.alt p q) n next k := by
  intro j before text rest hj hw
  obtain ⟨j, m, rfl, hm, hw⟩ := hw.of_not_waitsAt (by rw [waitsAt, h]; simp [waits])
  have hj : j ≤ k := Nat.le_of_succ_le hj
  rcases (mem_passesAt_fork h).1 hm with rfl | rfl
  · obtain ⟨u, v, i, rfl, hi, hu, hw⟩ := hp hj hw
    exact ⟨u, v, i, rfl, Nat.le_succ_of_le hi, .left q hu, hw⟩
  · obtain ⟨u, v, i, rfl, hi, hu, hw⟩ := hq hj hw
    exact ⟨u, v, i, rfl, Nat.le_succ_of_le hi, .right p hu, hw⟩

/-- The fork of a loop, by induction on the steps that are left. -/
theorem Passes.loopFork {start : Nat} (h : code[n]? = some (choose greedy start next))
    (hp : ∀ k, Passes code p start n k) (k : Nat) :
    Passes code (.times p 0 none greedy) n next k := by
  induction k using Nat.strongRecOn with
  | ind k ih => exact .of_choose h fun i hi => .round (.inr (by simp)) (hp i) (ih i hi)

theorem Passes.of_oneOrMore (h : Passes code (.times p 1 none greedy) n next k) :
    Passes code (.times p 0 none greedy) n next k := by
  intro j before text rest hj hw
  obtain ⟨u, v, i, rfl, hi, hu, hw⟩ := h hj hw
  refine ⟨u, v, i, rfl, hi, ?_, hw⟩
  cases hu with
  | round _ hp hmore => exact .round (.inr (by simp)) hp hmore

/-- A walk from where a pattern is laid out begins with a match of it. -/
theorem passes_of_laid (h : Laid code p n m) : ∀ k, Passes code p n m k := by
  induction h with
  | empty n => exact Passes.empty n
  | set h => exact fun _ => .set h
  | look h => exact fun _ => .look h
  | seq _ _ ihp ihq => exact fun k => (ihp k).seq (ihq k)
  | alt h _ _ ihp ihq => exact fun k => .alt h (ihp k) (ihq k)
  | done p greedy n =>
    exact fun _ j before text _ _ hw =>
      ⟨[], text, j, rfl, Nat.le_refl j, .none p (some 0) greedy before _, hw⟩
  | round _ _ ihp ihmore => exact fun k => .round (.inl (Nat.succ_pos _)) (ihp k) (ihmore k)
  | option h _ _ ihp ihmore =>
    exact fun k => .of_choose h fun i _ => .round (.inr (by simp)) (ihp i) (ihmore i)
  | loop h _ ihp =>
    exact fun k => .round (.inl Nat.one_pos) (ihp k) (.loopFork h ihp k)
  | loopFork h _ ihp => exact .loopFork h ihp
  | optionLoop h _ ih => exact fun k => .of_choose h fun i _ => (ih i).of_oneOrMore

/-! ### Whole programs -/

/-- The ways through the program of a pattern take what the pattern matches. -/
theorem mem_ways_ofPattern_iff (p : Pattern) :
    (text, rest) ∈ (ofPattern p).code.ways before input (ofPattern p).start ↔
      input = text ++ rest ∧ p.Matches before text rest := by
  have haccept : (ofPattern p).code.accepts 0 := by
    rw [accepts, getElem?_ofPattern_zero]
    rfl
  constructor
  · intro h
    obtain ⟨hinput, k, hw⟩ := exists_walk_of_mem_ways h
    obtain ⟨u, v, i, rfl, -, hu, hw⟩ := passes_of_laid (laid_ofPattern p) k (Nat.le_refl k) hw
    have hv : v = [] := by
      cases hw with
      | accept => rfl
      | pass hm => rw [passesAt_of_waitsAt (waitsAt_of_accepts haccept)] at hm; cases hm
      | one hm => rw [advance_of_accepts haccept] at hm; cases hm
    subst hv
    rw [List.append_nil] at hinput ⊢
    exact ⟨hinput, hu⟩
  · rintro ⟨rfl, h⟩
    obtain ⟨k, hw⟩ := exists_walk_of_matches (v := []) h (laid_ofPattern p)
      (.accept haccept _ rest)
    rw [List.append_nil] at hw
    exact mem_ways_of_walk hw

end Program

end TextParser.Regex
