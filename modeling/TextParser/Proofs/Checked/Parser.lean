import TextParser.Proofs.Parser.Recognizer
import TextParser.Proofs.Report.Places

/-!
Parsers with checked places: the difference of two lengths, the sum of a place and a length, and a
cut at a place have no result where they would go wrong, and then the whole run has none.

    length of input - length of rest      the rest is not longer than the input
    place + length                        not beyond a limit
    cut behind a match                    between two characters

Over parsers that leave suffixes and fail within their texts nothing ever goes wrong: the run has a
result, and it is that of the parser without checks.
-/

namespace TextParser

/-! ### Results -/

namespace Parsed

variable {α : Type} {p : Parsed α} {consumed limit : Nat}

/-- Moves a failure on by `consumed` bytes, if that does not get it beyond `limit`. -/
def shifted? (limit : Nat) (p : Parsed α) (consumed : Nat) : Option (Parsed α) :=
  match p with
  | success a rest => some (success a rest)
  | failure f =>
    (Place.add? limit f.offset consumed).map fun offset => failure { f with offset }

theorem shifted?_eq (h : ∀ f, p = failure f → f.offset + consumed ≤ limit) :
    p.shifted? limit consumed = some (p.shifted consumed) := by
  cases p with
  | success a rest => rfl
  | failure f => rw [shifted?, Place.add?_of_le (h f rfl), Option.map_some]; rfl

/-- The number of bytes that a success on `input` took, if its rest is not longer than that. -/
def checkedConsumed? (p : Parsed α) (input : Text) : Option (Option Nat) :=
  match p.rest? with
  | none => some none
  | some rest => (Place.sub? input.byteSize rest.byteSize).map some

theorem checkedConsumed?_eq {input : Text} (h : ∀ a rest, p = success a rest → rest <:+ input) :
    p.checkedConsumed? input = some (p.consumed? input) := by
  cases p with
  | success a rest =>
    have hle : rest.byteSize ≤ input.byteSize := Text.byteSize_le_of_suffix (h a rest rfl)
    simp only [checkedConsumed?, consumed?, rest?, Place.sub?_of_le hle, Option.map_some]
  | failure f => rfl

end Parsed

/-! ### The contract of closures -/

namespace Parser

variable {α β : Type}

/-- What a closure has to keep to: a success leaves a suffix of the text, and a failure is not
beyond its end; it may be inside of a character. -/
structure StaysWithin (p : Parser α) : Prop where
  leavesSuffix : p.LeavesSuffix
  failsAt : p.FailsAt fun input place => place ≤ input.byteSize

theorem KeepsContract.staysWithin {p : Parser α} (hp : p.KeepsContract) : p.StaysWithin :=
  ⟨hp.leavesSuffix, fun _ _ h => (hp.failsWithin h).le_byteSize⟩

namespace StaysWithin

/-- A place in what is left is, moved on by what is gone, a place in the whole. -/
theorem add_sub_le {rest t : Text} {place : Nat} (hp : place ≤ rest.byteSize) (h : rest <:+ t) :
    place + (t.byteSize - rest.byteSize) ≤ t.byteSize := by
  have hle := Text.byteSize_le_of_suffix h
  omega

theorem map {p : Parser α} (hp : p.StaysWithin) (g : α → β) : (p.map g).StaysWithin :=
  ⟨hp.leavesSuffix.map g, hp.failsAt.map g⟩

theorem andThen {p : Parser α} {q : Parser β} (hp : p.StaysWithin) (hq : q.StaysWithin) :
    (p.andThen q).StaysWithin :=
  ⟨hp.leavesSuffix.andThen hq.leavesSuffix,
    hp.failsAt.andThen hp.leavesSuffix hq.failsAt add_sub_le⟩

theorem orElse {p q : Parser α} (hp : p.StaysWithin) (hq : q.StaysWithin) :
    (p.orElse q).StaysWithin :=
  ⟨hp.leavesSuffix.orElse hq.leavesSuffix, hp.failsAt.orElse q⟩

theorem withError {p : Parser α} (hp : p.StaysWithin) (message : String) :
    (p.withError message).StaysWithin :=
  ⟨hp.leavesSuffix.withError message, hp.failsAt.withError message⟩

theorem reporting {p : Parser α} (hp : p.StaysWithin) (settings : Report.Settings) :
    (p.reporting settings).StaysWithin :=
  ⟨hp.leavesSuffix.reporting settings, hp.failsAt.reporting settings⟩

end StaysWithin

end Parser

/-! ### Checked parsers -/

/-- A parser whose run has no result if a step with places goes wrong in it. -/
structure Checked (α : Type) where
  parse? : Text → Option (Logged (Parsed α))

namespace Checked

variable {α β : Type}

/-- A parser that takes no such steps of its own. -/
def ofParser (p : Parser α) : Checked α where
  parse? input := some (p.parse input)

/-- Takes what `regex` matches, and cuts the text at the place where the match ends. -/
def ofRegex (regex : Regex) (message : String) : Checked String where
  parse? input :=
    match regex.find? input with
    | some ⟨[], text, _⟩ => do
      let (_, rest) ← input.splitAt? text.byteSize
      return pure (.success (String.ofList text) rest)
    | _ => some (pure (.failure ⟨0, message⟩))

/-- The recognizer for a pattern, if that is accepted, or else a failure. -/
def matching (r : Regex.Resources) (pattern message : String) : Checked String :=
  match Regex.compile r (Parser.anchoredPattern pattern) with
  | .ok regex => ofRegex regex message
  | .error _ => ofParser (Parser.fail 0 message)

/-- Applies `f` to the value. -/
def map (f : α → β) (c : Checked α) : Checked β where
  parse? input := do
    let parsed ← c.parse? input
    return ⟨parsed.value.map f, parsed.log⟩

/-- Runs `c` and then `d` on what `c` leaves, with both places of the move checked. -/
def andThen (limit : Nat) (c : Checked α) (d : Checked β) : Checked (α × β) where
  parse? input := do
    let first ← c.parse? input
    match first.value with
    | .failure f => return ⟨.failure f, first.log⟩
    | .success a rest =>
      let consumed ← Place.sub? input.byteSize rest.byteSize
      let second ← d.parse? rest
      let moved ← (second.value.map (a, ·)).shifted? limit consumed
      return ⟨moved, first.log ++ second.log⟩

/-- Runs `c` or, if that fails, `d` on the same text. -/
def orElse (c d : Checked α) : Checked α where
  parse? input := do
    let first ← c.parse? input
    match first.value with
    | .success _ _ => return first
    | .failure f =>
      let second ← d.parse? input
      return ⟨(Parsed.failure f).orParse second.value, first.log ++ .fellBack :: second.log⟩

/-- Replaces the message of a failure. -/
def withError (message : String) (c : Checked α) : Checked α where
  parse? input := do
    let parsed ← c.parse? input
    return ⟨parsed.value.mapFailure (·.withMessage message), parsed.log⟩

/-- Reports the failures of `c`, with all places of the report checked. -/
def reporting (settings : Report.Settings) (c : Checked α) : Checked α where
  parse? input := do
    let parsed ← c.parse? input
    match parsed.value with
    | .success _ _ => return parsed
    | .failure f =>
      let sent ← Report.send? settings input f
      return ⟨.failure f, parsed.log ++ sent.log⟩

end Checked

/-! ### Nothing goes wrong -/

/-- Whether `c` has a result on every text of at most `limit` bytes, which is that of `p`. -/
structure Checks (limit : Nat) (c : Checked α) (p : Parser α) : Prop where
  staysWithin : p.StaysWithin
  parse?_eq : ∀ ⦃input : Text⦄, input.byteSize ≤ limit → c.parse? input = some (p.parse input)

namespace Checks

open TextParser.Parser

variable {α β : Type} {limit : Nat} {c d : Checked α} {p q : Parser α}

theorem ofParser (hp : p.StaysWithin) : Checks limit (.ofParser p) p := ⟨hp, fun _ _ => rfl⟩

/-- A match at the front ends between two characters. -/
theorem ofRegex (regex : Regex) (message : String) :
    Checks limit (.ofRegex regex message) (.ofRegex regex message) := by
  refine ⟨(KeepsContract.ofRegex regex message).staysWithin, fun input _ => ?_⟩
  by_cases h : ∃ text rest, regex.find? input = some ⟨[], text, rest⟩
  · obtain ⟨text, rest, h⟩ := h
    have hinput : input = text ++ rest := Regex.find?_eq_append h
    have hsplit : input.splitAt? text.byteSize = some (text, rest) := by
      rw [hinput]
      exact Text.splitAt?_append text rest
    rw [parse_ofRegex_of_match message h]
    simp [Checked.ofRegex, h, hsplit]
  · have hno : ∀ text rest, regex.find? input ≠ some ⟨[], text, rest⟩ :=
      fun text rest hm => h ⟨text, rest, hm⟩
    rw [parse_ofRegex_of_no_match message hno]
    simp only [Checked.ofRegex]
    rfl

theorem matching {r : Regex.Resources} {pattern message : String} {p : Parser String}
    (h : (matchingWithError r pattern message).value = .ok p) :
    Checks limit (.matching r pattern message) p := by
  obtain ⟨regex, hregex, rfl⟩ := matchingWithError_eq_ok h
  rw [Checked.matching, hregex]
  exact ofRegex regex message

theorem builtin (pattern message : String) :
    Checks limit (.matching .standard pattern message) (Words.builtin pattern message) := by
  cases hregex : Regex.compile .standard (anchoredPattern pattern) with
  | ok regex =>
    rw [Checked.matching, Words.builtin, matchingWithError, hregex]
    exact ofRegex regex message
  | error e =>
    rw [Checked.matching, Words.builtin, matchingWithError, hregex]
    exact ofParser (KeepsContract.fail_zero message).staysWithin

theorem map (hc : Checks limit c p) (f : α → β) : Checks limit (c.map f) (p.map f) := by
  refine ⟨hc.staysWithin.map f, fun input hinput => ?_⟩
  rw [parse_map]
  simp [Checked.map, hc.parse?_eq hinput]

/-- What the first part leaves is not longer than the input, and where the second part fails in it
is not beyond the end. -/
theorem andThen {d : Checked β} {q : Parser β} (hc : Checks limit c p) (hd : Checks limit d q) :
    Checks limit (c.andThen limit d) (p.andThen q) := by
  refine ⟨hc.staysWithin.andThen hd.staysWithin, fun input hinput => ?_⟩
  cases hp : (p.parse input).value with
  | failure f =>
    rw [parse_andThen_of_failure q hp]
    simp [Checked.andThen, hc.parse?_eq hinput, hp]
  | success a rest =>
    have hrest : rest <:+ input := hc.staysWithin.leavesSuffix hp
    have hle : rest.byteSize ≤ input.byteSize := Text.byteSize_le_of_suffix hrest
    have hmoved : ((q.parse rest).value.map (a, ·)).shifted? limit
          (input.byteSize - rest.byteSize) =
        some (((q.parse rest).value.map (a, ·)).shifted (input.byteSize - rest.byteSize)) := by
      refine Parsed.shifted?_eq fun f hf => ?_
      have hf : f.offset ≤ rest.byteSize :=
        hd.staysWithin.failsAt (Parsed.map_eq_failure_iff.1 hf)
      exact Nat.le_trans (StaysWithin.add_sub_le hf hrest) hinput
    rw [parse_andThen_of_success q hp]
    simp [Checked.andThen, hc.parse?_eq hinput, hp, Place.sub?_of_le hle,
      hd.parse?_eq (Nat.le_trans hle hinput), hmoved]

-- A second part that fails beyond the end of its text gets the sum beyond the limit.
example : ((Checked.ofParser (literal "a")).andThen 1
    (.ofParser (fail 1 "beyond the end" : Parser String))).parse? "a".toList = none := by rfl

theorem orElse (hc : Checks limit c p) (hd : Checks limit d q) :
    Checks limit (c.orElse d) (p.orElse q) := by
  refine ⟨hc.staysWithin.orElse hd.staysWithin, fun input hinput => ?_⟩
  cases hp : (p.parse input).value with
  | success a rest =>
    rw [parse_orElse_of_success q hp]
    simp [Checked.orElse, hc.parse?_eq hinput, hp]
  | failure f =>
    rw [parse_orElse_of_failure q hp]
    simp [Checked.orElse, hc.parse?_eq hinput, hd.parse?_eq hinput, hp]

theorem withError (hc : Checks limit c p) (message : String) :
    Checks limit (c.withError message) (p.withError message) := by
  refine ⟨hc.staysWithin.withError message, fun input hinput => ?_⟩
  rw [parse_withError]
  simp [Checked.withError, hc.parse?_eq hinput]

/-- A report can be made of every failure. -/
theorem reporting (hc : Checks limit c p) (settings : Report.Settings) :
    Checks limit (c.reporting settings) (p.reporting settings) := by
  refine ⟨hc.staysWithin.reporting settings, fun input hinput => ?_⟩
  cases hp : (p.parse input).value with
  | success a rest =>
    rw [parse_reporting_of_success settings hp]
    simp [Checked.reporting, hc.parse?_eq hinput, hp]
  | failure f =>
    rw [parse_reporting_of_failure settings hp]
    simp [Checked.reporting, hc.parse?_eq hinput, hp, Report.send?_eq, Report.log_send]

end Checks

end TextParser
