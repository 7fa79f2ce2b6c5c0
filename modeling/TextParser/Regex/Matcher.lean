import TextParser.Regex.Program
import TextParser.Text

/-!
Matching a program against a text, all of its ways in step.

Between two characters the matcher holds the instructions reached, the preferred one first. Forks
and assertions are followed at once, and no instruction is reached twice at one place: whoever
comes first has the preference. An accept ends the list, for what stands behind it is not
preferred. The next character moves on those that it fits.

    text        a        a        b
    reached   a | b    a | b    a | b    accept
-/

namespace TextParser.Regex

namespace Program

/-! ### Following forks and assertions -/

/-- How many instructions of a program of `size` are not among `seen`. -/
def unseen (size : Nat) (seen : List Nat) : Nat :=
  ((List.range size).filter fun n => n ∉ seen).length

theorem unseen_cons_lt {size n : Nat} {seen : List Nat} (hn : n < size) (h : n ∉ seen) :
    unseen size (n :: seen) < unseen size seen := by
  have hsub : (List.range size).filter (fun m => m ∉ n :: seen) =
      ((List.range size).filter fun m => m ∉ seen).filter fun m => m ≠ n := by
    rw [List.filter_filter]
    exact List.filter_congr fun m _ => by simp [not_or]
  have hmem : n ∈ (List.range size).filter fun m => m ∉ seen := by
    simp [hn, h]
  rw [unseen, unseen, hsub]
  exact List.length_filter_lt_length_iff_exists.2 ⟨n, hmem, by simp⟩

/-- Where the instruction `i` goes on to without a character, between `before` and `after`. -/
def passes (i : Instruction) (before after : Option Char) : List Nat :=
  match i with
  | .fork first second => [first, second]
  | .look l next => if l.holds before after then [next] else []
  | .one _ _ => []
  | .accept => []

/-- Whether the instruction takes a character or accepts. -/
def waits : Instruction → Bool
  | .one _ _ => true
  | .accept => true
  | .fork _ _ => false
  | .look _ _ => false

theorem length_passes_le (i : Instruction) (before after : Option Char) :
    (passes i before after).length ≤ 2 := by
  cases i with
  | look l next => simp only [passes]; split <;> simp
  | _ => simp [passes]

/-- Follows the instructions on `stack` at the place between `before` and `after`, and lists those
that wait for a character or accept, in the order of preference. `seen` are those already reached.
-/
def follow (code : Program) (before after : Option Char) (stack seen : List Nat) : List Nat :=
  match stack with
  | [] => []
  | n :: stack =>
    if _hs : n ∈ seen then follow code before after stack seen
    else if _hn : n < code.size then
      let on := follow code before after (passes code[n] before after ++ stack) (n :: seen)
      if waits code[n] then n :: on else on
    else follow code before after stack seen
termination_by 2 * unseen code.size seen + stack.length
decreasing_by
  · simp
  · have := unseen_cons_lt _hn _hs
    have := length_passes_le code[n] before after
    simp only [List.length_append, List.length_cons]
    omega
  · simp

/-- The instructions reached from `starts`. -/
def reach (code : Program) (before after : Option Char) (starts : List Nat) : List Nat :=
  follow code before after starts []

/-! ### Running -/

/-- Whether instruction `n` accepts. -/
def accepts (code : Program) (n : Nat) : Bool := code[n]? == some .accept

/-- Where instruction `n` goes on to after the character `c`. -/
def advance (code : Program) (c : Char) (n : Nat) : Option Nat :=
  match code[n]? with
  | some (.one s next) => if s.contains c then some next else none
  | _ => none

/-- Runs from the instructions `starts` in front of `input`, with `before` behind: the preferred
match, cut into the text matched and the rest. -/
def run (code : Program) (starts : List Nat) (before : Option Char) : Text → Option (Text × Text)
  | [] => if (code.reach before none starts).any code.accepts then some ([], []) else none
  | c :: input =>
    let reached := code.reach before (some c) starts
    let preferred := reached.takeWhile fun n => !code.accepts n
    let here := if reached.any code.accepts then some ([], c :: input) else none
    match preferred.filterMap (code.advance c) with
    | [] => here
    | next =>
      match run code next (some c) input with
      | some (text, rest) => some (c :: text, rest)
      | none => here

end Program

end TextParser.Regex
