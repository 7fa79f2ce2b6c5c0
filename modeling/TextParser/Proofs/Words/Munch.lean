import TextParser.Proofs.Parser.Pasted
import TextParser.Proofs.Regex.Repeated
import TextParser.Proofs.Words.Letters

/-!
Maximal munch. Main statement: the recognizers built for `C+` and `C*`, where `C` writes a class,
take the longest part in front whose characters are all in the class. `C*` never fails, and `C+`
fails just where that part is empty. This holds whatever sets the properties in `C` stand for.

    text          ab1 c
    [a-zA-Z]+     takes ab, leaves 1 c
    \s*           takes nothing
    \s+           fails

So what a word leaves does not begin with a letter, and what blanks leave not with a blank.
-/

namespace TextParser

/-! ### Longest parts -/

namespace Text

variable {p : Char → Bool} {t taken rest : Text}

/-- Whether `taken` is the longest part in front of `t` whose characters all satisfy `p`, and `rest`
is everything behind it. -/
structure IsLongest (p : Char → Bool) (t taken rest : Text) : Prop where
  append_eq : taken ++ rest = t
  all : ∀ c ∈ taken, p c
  longest : ∀ front, front <+: t → (∀ c ∈ front, p c) → front.length ≤ taken.length

theorem isLongest_takeWhile (p : Char → Bool) (t : Text) :
    IsLongest p t (t.takeWhile p) (t.dropWhile p) where
  append_eq := List.takeWhile_append_dropWhile
  all := List.all_eq_true.1 List.all_takeWhile
  longest := by
    rintro front ⟨back, rfl⟩ hall
    rw [List.takeWhile_append_of_pos hall, List.length_append]
    exact Nat.le_add_right _ _

/-- The character behind it would make it longer. -/
theorem IsLongest.not_head (h : IsLongest p t taken rest) : ∀ c ∈ rest.head?, ¬ p c := by
  intro c hc hp
  obtain ⟨back, rfl⟩ := List.head?_eq_some_iff.1 hc
  have hfront : taken ++ [c] <+: t := ⟨back, by rw [List.append_assoc, ← h.append_eq]; rfl⟩
  have hall : ∀ d ∈ taken ++ [c], p d := by
    intro d hd
    rcases List.mem_append.1 hd with hd | hd
    · exact h.all d hd
    · rwa [List.mem_singleton.1 hd]
  have hlength := h.longest _ hfront hall
  rw [List.length_append, List.length_singleton] at hlength
  omega

end Text

/-! ### Recognizers -/

namespace Parser

variable {q : Parser String} {p : Char → Bool} {message pattern : String}

/-- Whether `q` takes the longest part in front whose characters satisfy `p`. -/
def MunchesAny (q : Parser String) (p : Char → Bool) : Prop :=
  ∀ input, ∃ taken rest, Text.IsLongest p input taken rest ∧
    q.parse input = ⟨.success (String.ofList taken) rest, []⟩

/-- Whether `q` takes that part unless it is empty, and then fails at the front with `message`. -/
def MunchesSome (q : Parser String) (p : Char → Bool) (message : String) : Prop :=
  ∀ input, ∃ taken rest, Text.IsLongest p input taken rest ∧
    q.parse input =
      if taken = [] then ⟨.failure ⟨0, message⟩, []⟩
      else ⟨.success (String.ofList taken) rest, []⟩

theorem munchesAny_ofRegex (s : Regex.CharSet) (message : String) :
    (ofRegex (.ofPattern (.times (.set s) 0 none true)) message).MunchesAny s.contains := by
  intro input
  refine ⟨_, _, Text.isLongest_takeWhile s.contains input, ?_⟩
  rw [parse_ofRegex, Regex.matchHere_zeroOrMore_set]

theorem munchesSome_ofRegex (s : Regex.CharSet) (message : String) :
    (ofRegex (.ofPattern (.times (.set s) 1 none true)) message).MunchesSome s.contains message :=
  fun input => ⟨_, _, Text.isLongest_takeWhile s.contains input,
    Words.parse_ofRegex_oneOrMore_set s message input⟩

/-- What is left does not begin with a character that could have been taken. -/
theorem MunchesAny.not_head (h : q.MunchesAny p) {input rest : Text} {value : String}
    (hq : (q.parse input).value = .success value rest) : ∀ c ∈ rest.head?, ¬ p c := by
  obtain ⟨taken, left, hlongest, hparse⟩ := h input
  rw [hparse] at hq
  cases hq
  exact hlongest.not_head

theorem MunchesSome.not_head (h : q.MunchesSome p message) {input rest : Text} {value : String}
    (hq : (q.parse input).value = .success value rest) : ∀ c ∈ rest.head?, ¬ p c := by
  obtain ⟨taken, left, hlongest, hparse⟩ := h input
  rw [hparse] at hq
  split at hq <;> cases hq
  exact hlongest.not_head

/-! ### Building -/

open Regex (Resources CharSet readPattern)

variable {r : Resources}

/-- Whether a recognizer for `pattern` is built, of which `P` holds; beyond a limit the limit is
told instead. -/
def Makes (r : Resources) (pattern message : String) (P : Parser String → Prop) : Prop :=
  match r.exceeded? (anchoredPattern pattern) with
  | none => ∃ q, matchingWithError r pattern message = ⟨.ok q, [.compiled pattern]⟩ ∧ P q
  | some limit =>
    matchingWithError r pattern message =
      ⟨.error (.invalidPattern pattern (.exceeds (anchoredPattern pattern) limit)), []⟩

theorem makes_ofRegex {meaning : Regex.Pattern}
    (h : readPattern r.properties (anchoredPattern pattern) =
      .ok (.seq (.look .textStart) meaning))
    {P : Parser String → Prop} (hP : P (ofRegex (.ofPattern meaning) message)) :
    Makes r pattern message P := by
  rw [Makes]
  split
  · refine ⟨_, matchingWithError_of_ok (compile_of_read ‹_› h) message, ?_⟩
    rw [ofRegex_anchored]
    exact hP
  · exact matchingWithError_of_error (compile_of_exceeded ‹_›) message

/-- A text that by itself means a set of characters, and is no group, makes recognizers that
munch. -/
theorem makes_munching {C : String} {s : CharSet} (message : String)
    (hset : readPattern r.properties C.toList = .ok (.set s)) (hgroup : C.toList.head? ≠ some '(') :
    Makes r (C ++ "+") message (·.MunchesSome s.contains message) ∧
      Makes r (C ++ "*") message (·.MunchesAny s.contains) := by
  constructor
  · refine makes_ofRegex ?_ (munchesSome_ofRegex s message)
    rw [anchoredPattern_eq, String.toList_append]
    exact Regex.readPattern_pasted_repeated hset hgroup .some
  · refine makes_ofRegex ?_ (munchesAny_ofRegex s message)
    rw [anchoredPattern_eq, String.toList_append]
    exact Regex.readPattern_pasted_repeated hset hgroup .any

end Parser

namespace Words

open TextParser.Parser (Makes MunchesAny MunchesSome)
open Regex (CharSet Resources readPattern)
open Unicode (isWhiteSpace)

theorem word_munches : word.MunchesSome Char.isAlpha wordError := by
  rw [word_eq, ← contains_letters]
  exact Parser.munchesSome_ofRegex letters wordError

theorem whitespace_munches :
    whitespace.MunchesSome isWhiteSpace (Parser.couldNotMatch "\\s+") := by
  rw [whitespace_eq, ← contains_space]
  exact Parser.munchesSome_ofRegex .space _

theorem optionalWhitespace_munches : optionalWhitespace.MunchesAny isWhiteSpace := by
  rw [optionalWhitespace_eq, ← contains_space]
  exact Parser.munchesAny_ofRegex .space _

end Words

end TextParser
