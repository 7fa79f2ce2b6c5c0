import TextParser.Proofs.Regex.Anchored

/-!
Greedy repetitions of a class take all they can. Main statements: `C*` takes the longest part in
front whose characters are all in the class, and `C+` does too unless that part is empty.

    0  accept
    1  fork 2 0      the way in of C*
    2  one C → 1     the way in of C+
-/

namespace TextParser.Regex

variable {before : Option Char}

/-- A single character of a class. -/
theorem matchHere_set (s : CharSet) (before : Option Char) (input : Text) :
    (ofPattern (.set s)).matchHere before input =
      match input with
      | [] => none
      | c :: rest => if s.contains c then some ([c], rest) else none := by
  have hcode : ofPattern (.set s) = ⟨#[.accept, .one s 0], 1, false⟩ := rfl
  rw [hcode, matchHere]
  cases input with
  | nil => simp [Program.run, Program.reach, Program.follow, Program.passes, Program.waits,
      Program.accepts]
  | cons c rest =>
    have hrest : Program.run #[.accept, .one s 0] [0] (some c) rest = some ([], rest) := by
      cases rest <;> simp [Program.run, Program.reach, Program.follow, Program.passes,
        Program.waits, Program.accepts]
    cases hc : s.contains c <;> simp [Program.run, Program.reach, Program.follow, Program.passes,
      Program.waits, Program.accepts, Program.advance, hc, hrest]

namespace Loop

/-- The program of a greedy repetition of the class `s`. -/
def code (s : CharSet) : Program := #[.accept, .fork 2 0, .one s 1]

@[simp] theorem accepts_zero (s : CharSet) : (code s).accepts 0 = true := by
  simp [code, Program.accepts]

@[simp] theorem accepts_body (s : CharSet) : (code s).accepts 2 = false := by
  simp [code, Program.accepts]

@[simp] theorem advance_body (s : CharSet) (c : Char) :
    (code s).advance c 2 = if s.contains c then some 1 else none := by
  simp [code, Program.advance]

@[simp] theorem reach_fork (s : CharSet) (before after : Option Char) :
    (code s).reach before after [1] = [2, 0] := by
  simp [code, Program.reach, Program.follow, Program.passes, Program.waits]

@[simp] theorem reach_body (s : CharSet) (before after : Option Char) :
    (code s).reach before after [2] = [2] := by
  simp [code, Program.reach, Program.follow, Program.passes, Program.waits]

theorem run_fork (s : CharSet) : ∀ (before : Option Char) (input : Text),
    (code s).run [1] before input =
      some (input.takeWhile s.contains, input.dropWhile s.contains)
  | before, [] => by simp [Program.run]
  | before, c :: input => by
    cases hc : s.contains c with
    | true => simp [Program.run, hc, run_fork s (some c) input]
    | false => simp [Program.run, hc]

theorem run_body (s : CharSet) (before : Option Char) (input : Text) :
    (code s).run [2] before input =
      if input.takeWhile s.contains = [] then none
      else some (input.takeWhile s.contains, input.dropWhile s.contains) := by
  cases input with
  | nil => simp [Program.run]
  | cons c input =>
    cases hc : s.contains c with
    | true => simp [Program.run, hc, run_fork s (some c) input]
    | false => simp [Program.run, hc]

end Loop

/-- `C*` takes the longest part in front that is made of characters of the class. -/
theorem matchHere_zeroOrMore_set (s : CharSet) (before : Option Char) (input : Text) :
    (ofPattern (.times (.set s) 0 none true)).matchHere before input =
      some (input.takeWhile s.contains, input.dropWhile s.contains) :=
  Loop.run_fork s before input

/-- `C+` does too, unless that part is empty. -/
theorem matchHere_oneOrMore_set (s : CharSet) (before : Option Char) (input : Text) :
    (ofPattern (.times (.set s) 1 none true)).matchHere before input =
      if input.takeWhile s.contains = [] then none
      else some (input.takeWhile s.contains, input.dropWhile s.contains) :=
  Loop.run_body s before input

end TextParser.Regex
