import TextParser.Parsed
import TextParser.Value

/-!
Operations on results as data, so that a chain of them can be followed from state to state.
-/

namespace TextParser.Parsed

/-- An operation on a result. -/
inductive Step where
  | map (f : Transform)
  /-- The failure becomes one at `offset`, its message put after `lead`. -/
  | mapFailure (offset : Nat) (lead : String)
  | shifted (consumed : Nat)
  | orParse (alternative : Parsed Value)
  /-- There and back again through `Except`. -/
  | roundTrip
  /-- A comparison, which changes nothing. -/
  | compare (other : Parsed Value)

/-- Whether two results are the same. -/
def same : Parsed Value → Parsed Value → Bool
  | .success v r, .success w s => v == w && r == s
  | .failure e, .failure f => e == f
  | .success _ _, .failure _ => false
  | .failure _, .success _ _ => false

namespace Step

/-- What a step makes of a result. -/
def apply : Step → Parsed Value → Parsed Value
  | map f, p => p.map f.apply
  | mapFailure offset lead, p => p.mapFailure fun f => ⟨offset, lead ++ f.message⟩
  | shifted consumed, p => p.shifted consumed
  | orParse alternative, p => p.orParse alternative
  | roundTrip, p => ofExcept p.toExcept
  | compare _, p => p

/-- Whether a step asks for the function that it was given. -/
def calls : Step → Parsed Value → Bool
  | map _, p => p.isSuccess
  | mapFailure _ _, p => p.isFailure
  | orParse _, p => p.isFailure
  | shifted _, _ => false
  | roundTrip, _ => false
  | compare _, _ => false

/-- The verdict of a comparison. -/
def verdict? : Step → Parsed Value → Option Bool
  | compare other, p => some (p.same other)
  | _, _ => none

end Step

end TextParser.Parsed
