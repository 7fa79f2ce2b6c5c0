import TextParser.Regex.Program

/-!
Where a pattern stands in a program. Main statement: the layout of a pattern puts it where it says,
whatever is put in front of it later, and never points outside the program.

    laid out from 3 to 0     0  accept
                             1  one b → 0
           a+b               2  fork 3 1
                             3  one a → 2
-/

namespace TextParser.Regex.Program

variable {p q : Pattern} {body : Layout} {code full : Program} {greedy : Bool}
  {i n m next start : Nat}

/-- Whether `code` holds the pattern from instruction `n` to instruction `m`. -/
inductive Laid (code : Program) : Pattern → Nat → Nat → Prop
  | empty (n : Nat) : Laid code .empty n n
  | set {s : CharSet} {n next : Nat} (h : code[n]? = some (.one s next)) :
    Laid code (.set s) n next
  | look {l : Look} {n next : Nat} (h : code[n]? = some (.look l next)) :
    Laid code (.look l) n next
  | seq {p q : Pattern} {n m next : Nat} (hp : Laid code p n m) (hq : Laid code q m next) :
    Laid code (.seq p q) n next
  | alt {p q : Pattern} {n first second next : Nat} (h : code[n]? = some (.fork first second))
    (hp : Laid code p first next) (hq : Laid code q second next) : Laid code (.alt p q) n next
  /-- No more rounds. -/
  | done (p : Pattern) (greedy : Bool) (n : Nat) : Laid code (.times p 0 (some 0) greedy) n n
  /-- A round that there has to be. -/
  | round {p : Pattern} {min : Nat} {max : Option Nat} {greedy : Bool} {n m next : Nat}
    (hp : Laid code p n m) (hmore : Laid code (.times p min (max.map (· - 1)) greedy) m next) :
    Laid code (.times p (min + 1) max greedy) n next
  /-- A round that may be left out. -/
  | option {p : Pattern} {max : Nat} {greedy : Bool} {n start m next : Nat}
    (h : code[n]? = some (choose greedy start next)) (hp : Laid code p start m)
    (hmore : Laid code (.times p 0 (some max) greedy) m next) :
    Laid code (.times p 0 (some (max + 1)) greedy) n next
  /-- A loop, entered at its body. -/
  | loop {p : Pattern} {greedy : Bool} {start fork next : Nat}
    (h : code[fork]? = some (choose greedy start next)) (hp : Laid code p start fork) :
    Laid code (.times p 1 none greedy) start next
  /-- A loop, entered at its fork. -/
  | loopFork {p : Pattern} {greedy : Bool} {start fork next : Nat}
    (h : code[fork]? = some (choose greedy start next)) (hp : Laid code p start fork) :
    Laid code (.times p 0 none greedy) fork next
  /-- A loop that may be left out. -/
  | optionLoop {p : Pattern} {greedy : Bool} {n start next : Nat}
    (h : code[n]? = some (choose greedy start next))
    (hp : Laid code (.times p 1 none greedy) start next) :
    Laid code (.times p 0 none greedy) n next

/-! ### Programs that grow -/

/-- Whether `more` begins with `code`. -/
structure Grows (code more : Program) : Prop where
  size_le : code.size ≤ more.size
  getElem?_eq : ∀ i, i < code.size → more[i]? = code[i]?

theorem Grows.refl (code : Program) : Grows code code := ⟨Nat.le_refl _, fun _ _ => rfl⟩

theorem Grows.trans {more most : Program} (h : Grows code more) (h' : Grows more most) :
    Grows code most where
  size_le := Nat.le_trans h.size_le h'.size_le
  getElem?_eq i hi := by
    rw [h'.getElem?_eq i (Nat.lt_of_lt_of_le hi h.size_le), h.getElem?_eq i hi]

theorem Grows.push (code : Program) (i : Instruction) : Grows code (code.push i) where
  size_le := by simp
  getElem?_eq n hn := by rw [Array.getElem?_push, if_neg (Nat.ne_of_lt hn)]

/-- Whether `full` is as `code` is from instruction `n` on. -/
def AgreesFrom (n : Nat) (code full : Program) : Prop :=
  ∀ i, n ≤ i → i < code.size → full[i]? = code[i]?

theorem AgreesFrom.of_grows {more : Program} (h : AgreesFrom n more full) (hg : Grows code more) :
    AgreesFrom n code full := by
  intro i hn hi
  rw [h i hn (Nat.lt_of_lt_of_le hi hg.size_le), hg.getElem?_eq i hi]

theorem AgreesFrom.mono (h : AgreesFrom n code full) (hm : n ≤ m) : AgreesFrom m code full :=
  fun i hi => h i (Nat.le_trans hm hi)

/-! ### Programs that point inside -/

/-- The instructions that `i` goes on to. -/
def targets : Instruction → List Nat
  | .accept => []
  | .one _ next => [next]
  | .look _ next => [next]
  | .fork first second => [first, second]

/-- Whether every instruction goes on inside the program. -/
def Closed (code : Program) : Prop :=
  ∀ (n : Nat) (i : Instruction), code[n]? = some i → ∀ m ∈ targets i, m < code.size

theorem Closed.push {i : Instruction} (hc : code.Closed) (hi : ∀ m ∈ targets i, m < code.size + 1) :
    Closed (code.push i) := by
  intro n j hj m hm
  rw [Array.getElem?_push] at hj
  rw [Array.size_push]
  split at hj
  · cases hj
    exact hi m hm
  · exact Nat.lt_succ_of_lt (hc n j hj m hm)

theorem Closed.setIfInBounds {i : Instruction} (hc : code.Closed)
    (hi : ∀ m ∈ targets i, m < code.size) (k : Nat) : Closed (code.setIfInBounds k i) := by
  intro n j hj m hm
  rw [Array.size_setIfInBounds]
  rw [Array.getElem?_setIfInBounds] at hj
  split at hj
  · split at hj
    · cases hj
      exact hi m hm
    · cases hj
  · exact hc n j hj m hm

theorem targets_choose (greedy : Bool) (more leave : Nat) :
    ∀ m ∈ targets (choose greedy more leave), m = more ∨ m = leave := by
  cases greedy <;> simp [choose, targets, or_comm]

/-! ### Layouts -/

/-- Whether a layout step puts `p` in front of what it is given, at a place of its own. -/
structure LaysOut (body : Layout) (p : Pattern) : Prop where
  grows : ∀ next code, Grows code (body next code).code
  start_lt : ∀ next code, next < code.size → (body next code).start < (body next code).code.size
  closed : ∀ next code, next < code.size → code.Closed → (body next code).code.Closed
  laid : ∀ next code full, AgreesFrom code.size (body next code).code full →
    Laid full p (body next code).start next

theorem laysOut_emit {p : Pattern} {i : Nat → Instruction}
    (ht : ∀ next, ∀ m ∈ targets (i next), m = next)
    (hlaid : ∀ next n (full : Program), full[n]? = some (i next) → Laid full p n next) :
    LaysOut (fun next code => emit (i next) code) p where
  grows next code := .push code _
  start_lt next code _ := by simp [emit]
  closed next code hn hc := hc.push fun m hm => by rw [ht next m hm]; exact Nat.lt_succ_of_lt hn
  laid next code full h := by
    refine hlaid next code.size full ?_
    rw [h code.size (Nat.le_refl _) (by simp [emit])]
    simp [emit]

theorem LaysOut.seq {first second : Layout} (hp : LaysOut first p) (hq : LaysOut second q) :
    LaysOut (fun next code => first (second next code).start (second next code).code)
      (.seq p q) where
  grows next code := (hq.grows next code).trans (hp.grows _ _)
  start_lt next code hn := hp.start_lt _ _ (hq.start_lt next code hn)
  closed next code hn hc := hp.closed _ _ (hq.start_lt next code hn) (hq.closed next code hn hc)
  laid next code full h := by
    have hq' := hq.laid next code full (h.of_grows (hp.grows _ _))
    exact .seq (hp.laid _ _ full (h.mono (hq.grows next code).size_le)) hq'

theorem LaysOut.alt {left right : Layout} (hp : LaysOut left p) (hq : LaysOut right q) :
    LaysOut (fun next code =>
      let second := right next code
      let first := left next second.code
      emit (.fork first.start second.start) first.code) (.alt p q) where
  grows next code := ((hq.grows next code).trans (hp.grows _ _)).trans (.push _ _)
  start_lt next code _ := by simp [emit]
  closed next code hn hc := by
    have hn' : next < (right next code).code.size := Nat.lt_of_lt_of_le hn (hq.grows _ _).size_le
    refine (hp.closed _ _ hn' (hq.closed next code hn hc)).push fun m hm => ?_
    have hsize := (hp.grows next (right next code).code).size_le
    have hfirst := hp.start_lt next _ hn'
    have hsecond := hq.start_lt next code hn
    simp only [targets, List.mem_cons, List.not_mem_nil, or_false] at hm
    rcases hm with rfl | rfl
    · omega
    · omega
  laid next code full h := by
    have hright := hq.grows next code
    have hleft := hp.grows next (right next code).code
    have hfork : full[(left next (right next code).code).code.size]? =
        some (.fork (left next (right next code).code).start (right next code).start) := by
      rw [h _ (Nat.le_trans hright.size_le hleft.size_le) (by simp [emit])]
      simp [emit]
    have hbody := h.of_grows (.push _ _)
    exact .alt hfork (hp.laid _ _ full (hbody.mono hright.size_le))
      (hq.laid _ _ full (hbody.of_grows hleft))

/-! ### Rounds -/

theorem grows_exactly (hp : LaysOut body p) (next : Nat) (code : Program) :
    ∀ n, Grows code (exactly body n next code).code
  | 0 => .refl code
  | n + 1 => (grows_exactly hp next code n).trans (hp.grows _ _)

theorem start_lt_exactly (hp : LaysOut body p) {next : Nat} {code : Program}
    (hn : next < code.size) :
    ∀ n, (exactly body n next code).start < (exactly body n next code).code.size
  | 0 => hn
  | n + 1 => hp.start_lt _ _ (start_lt_exactly hp hn n)

theorem closed_exactly (hp : LaysOut body p) {next : Nat} {code : Program}
    (hn : next < code.size) (hc : code.Closed) : ∀ n, (exactly body n next code).code.Closed
  | 0 => hc
  | n + 1 => hp.closed _ _ (start_lt_exactly hp hn n) (closed_exactly hp hn hc n)

/-- Rounds that there have to be, in front of a repetition. -/
theorem laid_exactly (hp : LaysOut body p) {min next stop : Nat} {code full : Program} :
    ∀ (n : Nat) (max : Option Nat), AgreesFrom code.size (exactly body n next code).code full →
      Laid full (.times p min (max.map (· - n)) greedy) next stop →
      Laid full (.times p (min + n) max greedy) (exactly body n next code).start stop
  | 0, max, _, hmore => by simpa [exactly] using hmore
  | n + 1, max, h, hmore => by
    have hmax : (max.map (· - 1)).map (· - n) = max.map (· - (n + 1)) := by
      cases max <;> simp [Nat.sub_sub, Nat.add_comm]
    have hrest := laid_exactly hp n (max.map (· - 1)) (h.of_grows (hp.grows _ _))
      (hmax.symm ▸ hmore)
    exact .round (hp.laid _ _ full (h.mono (grows_exactly hp next code n).size_le)) hrest

theorem LaysOut.upTo (hp : LaysOut body p) :
    ∀ n, LaysOut (upTo body greedy n) (.times p 0 (some n) greedy)
  | 0 => {
    grows := fun _ code => .refl code
    start_lt := fun _ _ hn => hn
    closed := fun _ _ _ hc => hc
    laid := fun next _ _ _ => .done p greedy next }
  | n + 1 =>
    have ih := LaysOut.upTo hp n
    { grows := fun next code => ((ih.grows next code).trans (hp.grows _ _)).trans (.push _ _)
      start_lt := fun next code _ => by simp [Program.upTo, emit]
      closed := fun next code hn hc => by
        have hstart := ih.start_lt next code hn
        refine (hp.closed _ _ hstart (ih.closed next code hn hc)).push fun m hm => ?_
        have hrest := (ih.grows next code).size_le
        have hround := (hp.grows (Program.upTo body greedy n next code).start
          (Program.upTo body greedy n next code).code).size_le
        have hlt := hp.start_lt _ _ hstart
        rcases targets_choose _ _ _ m hm with rfl | rfl
        · omega
        · omega
      laid := fun next code full h => by
        have hrest := ih.grows next code
        have hround := hp.grows (Program.upTo body greedy n next code).start
          (Program.upTo body greedy n next code).code
        have hbody := h.of_grows (.push _ _)
        have hfork : full[(body (Program.upTo body greedy n next code).start
              (Program.upTo body greedy n next code).code).code.size]? =
            some (choose greedy (body (Program.upTo body greedy n next code).start
              (Program.upTo body greedy n next code).code).start next) := by
          rw [h _ (Nat.le_trans hrest.size_le hround.size_le) (by simp [Program.upTo, emit])]
          simp [Program.upTo, emit]
        exact .option hfork (hp.laid _ _ full (hbody.mono hrest.size_le))
          (ih.laid _ _ full (hbody.of_grows hround)) }

/-! ### Loops -/

theorem size_again (body : Layout) (greedy : Bool) (next : Nat) (code : Program) :
    (again body greedy next code).1.code.size =
      (body code.size (code.push .accept)).code.size := by
  simp [again]

theorem size_lt_again (hp : LaysOut body p) (greedy : Bool) (next : Nat) (code : Program) :
    code.size < (again body greedy next code).1.code.size := by
  have hsize := (hp.grows code.size (code.push .accept)).size_le
  rw [Array.size_push] at hsize
  rw [size_again]
  exact hsize

theorem start_lt_again (hp : LaysOut body p) (greedy : Bool) (next : Nat) (code : Program) :
    (again body greedy next code).1.start < (again body greedy next code).1.code.size := by
  rw [size_again]
  exact hp.start_lt _ _ (by simp)

theorem grows_again (hp : LaysOut body p) (greedy : Bool) (next : Nat) (code : Program) :
    Grows code (again body greedy next code).1.code where
  size_le := Nat.le_of_lt (size_lt_again hp greedy next code)
  getElem?_eq i hi := by
    simp only [again]
    rw [Array.getElem?_setIfInBounds, if_neg (Nat.ne_of_gt hi),
      (hp.grows _ _).getElem?_eq i (by rw [Array.size_push]; exact Nat.lt_succ_of_lt hi),
      (Grows.push code .accept).getElem?_eq i hi]

theorem closed_again (hp : LaysOut body p) (greedy : Bool) (hn : next < code.size)
    (hc : code.Closed) : (again body greedy next code).1.code.Closed := by
  refine (hp.closed _ _ (by simp) (hc.push (by rintro m ⟨⟩))).setIfInBounds (fun m hm => ?_) _
  have hstart := start_lt_again hp greedy next code
  have hlt := size_lt_again hp greedy next code
  rw [size_again] at hstart hlt
  rcases targets_choose _ _ _ m hm with rfl | rfl
  · exact hstart
  · omega

/-- A loop has its fork right behind what it is put in front of. -/
theorem laid_again (hp : LaysOut body p)
    (h : AgreesFrom code.size (again body greedy next code).1.code full) :
    full[code.size]? = some (choose greedy (again body greedy next code).1.start next) ∧
      Laid full p (again body greedy next code).1.start code.size := by
  have hlt := size_lt_again hp greedy next code
  constructor
  · rw [h _ (Nat.le_refl _) hlt]
    rw [size_again] at hlt
    simp only [again]
    rw [Array.getElem?_setIfInBounds, if_pos rfl, if_pos hlt]
  · refine hp.laid code.size (code.push .accept) full fun i hi hi' => ?_
    rw [Array.size_push] at hi
    rw [h i (Nat.le_of_succ_le hi) (by rw [size_again]; exact hi')]
    simp only [again]
    rw [Array.getElem?_setIfInBounds, if_neg (Nat.ne_of_lt hi)]

theorem LaysOut.oneOrMore (hp : LaysOut body p) (greedy : Bool) :
    LaysOut (oneOrMore body greedy) (.times p 1 none greedy) where
  grows := grows_again hp greedy
  start_lt next code _ := start_lt_again hp greedy next code
  closed _ _ := closed_again hp greedy
  laid _ _ _ h := .loop (laid_again hp h).1 (laid_again hp h).2

theorem LaysOut.zeroOrMore (hp : LaysOut body p) (mayBeEmpty greedy : Bool) :
    LaysOut (zeroOrMore body mayBeEmpty greedy) (.times p 0 none greedy) := by
  cases mayBeEmpty with
  | false =>
    exact {
      grows := grows_again hp greedy
      start_lt := fun next code _ => size_lt_again hp greedy next code
      closed := fun _ _ => closed_again hp greedy
      laid := fun _ _ _ h => .loopFork (laid_again hp h).1 (laid_again hp h).2 }
  | true =>
    exact {
      grows := fun next code => (grows_again hp greedy next code).trans (.push _ _)
      start_lt := fun next code _ => by simp [Program.zeroOrMore, emit]
      closed := fun next code hn hc => by
        refine (closed_again hp greedy hn hc).push fun m hm => ?_
        have hlt := size_lt_again hp greedy next code
        rcases targets_choose _ _ _ m hm with rfl | rfl
        · exact Nat.lt_succ_of_lt (start_lt_again hp greedy next code)
        · omega
      laid := fun next code full h => by
        have hagain : AgreesFrom code.size (again body greedy next code).1.code full :=
          h.of_grows (.push _ _)
        have hloop := laid_again hp hagain
        have hfork : full[(again body greedy next code).1.code.size]? =
            some (choose greedy (again body greedy next code).1.start next) := by
          rw [h _ (grows_again hp greedy next code).size_le (by simp [Program.zeroOrMore, emit])]
          simp [Program.zeroOrMore, emit]
        exact .optionLoop hfork (.loop hloop.1 hloop.2) }

/-- A repetition: the rounds that there have to be, and then `rest`. -/
theorem LaysOut.exactly {rest : Layout} {max : Option Nat} {min : Nat} (hp : LaysOut body p)
    (n : Nat) (hrest : LaysOut rest (.times p min (max.map (· - n)) greedy)) :
    LaysOut (fun next code => exactly body n (rest next code).start (rest next code).code)
      (.times p (min + n) max greedy) where
  grows next code := (hrest.grows next code).trans (grows_exactly hp _ _ n)
  start_lt next code hn := start_lt_exactly hp (hrest.start_lt next code hn) n
  closed next code hn hc :=
    closed_exactly hp (hrest.start_lt next code hn) (hrest.closed next code hn hc) n
  laid next code full h :=
    laid_exactly hp n max (h.mono (hrest.grows next code).size_le)
      (hrest.laid _ _ full (h.of_grows (grows_exactly hp _ _ n)))

/-- The layout of a pattern puts the pattern where it says. -/
theorem laysOut_layout : ∀ p : Pattern, LaysOut (layout p) p
  | .empty => {
    grows := fun _ code => .refl code
    start_lt := fun _ _ hn => hn
    closed := fun _ _ _ hc => hc
    laid := fun next _ _ _ => .empty next }
  | .set s => laysOut_emit (i := .one s) (by simp [targets]) fun _ _ _ h => .set h
  | .look l => laysOut_emit (i := .look l) (by simp [targets]) fun _ _ _ h => .look h
  | .seq p q => (laysOut_layout p).seq (laysOut_layout q)
  | .alt p q => (laysOut_layout p).alt (laysOut_layout q)
  | .times p 0 none greedy => (laysOut_layout p).zeroOrMore p.mayBeEmpty greedy
  | .times p (n + 1) none greedy => by
    have h : LaysOut _ (.times p (1 + n) none greedy) :=
      (laysOut_layout p).exactly n ((laysOut_layout p).oneOrMore greedy)
    rwa [Nat.add_comm] at h
  | .times p n (some m) greedy => by
    have h : LaysOut _ (.times p (0 + n) (some m) greedy) :=
      (laysOut_layout p).exactly n ((laysOut_layout p).upTo (m - n))
    rw [Nat.zero_add] at h
    cases n <;> exact h

/-! ### Whole programs -/

theorem closed_ofPattern (p : Pattern) : (ofPattern p).code.Closed := by
  refine (laysOut_layout p).closed 0 #[.accept] (by simp) fun n i hi m hm => ?_
  cases n with
  | zero => cases hi; cases hm
  | succ n => simp at hi

theorem start_lt_ofPattern (p : Pattern) : (ofPattern p).start < (ofPattern p).code.size :=
  (laysOut_layout p).start_lt 0 #[.accept] (by simp)

theorem laid_ofPattern (p : Pattern) : Laid (ofPattern p).code p (ofPattern p).start 0 :=
  (laysOut_layout p).laid 0 #[.accept] _ fun _ _ _ => rfl

theorem getElem?_ofPattern_zero (p : Pattern) : (ofPattern p).code[0]? = some .accept :=
  ((laysOut_layout p).grows 0 #[.accept]).getElem?_eq 0 (by simp)

end TextParser.Regex.Program
