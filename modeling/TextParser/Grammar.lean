import TextParser.Tree
import TextParser.Value
import TextParser.Words

/-!
Grammars: parsers described as data, built once and then run.

Recursion is by name: inside `fix name g` a reference to `name` stands for the whole of it, and
an inner `fix` of the same name hides the outer one.

    fix e (or (seq (literal "(") (seq (ref e) (literal ")"))) (pure ""))
-/

namespace TextParser

/-- A parser described as data. -/
inductive Grammar where
  | matching (pattern : String) (message : Option String)
  | regex (expr message : String)
  | endOfInput
  | seq (a b : Grammar)
  | left (a b : Grammar)
  | right (a b : Grammar)
  | or (a b : Grammar)
  | orError (a b : Grammar) (message : String)
  | map (f : Transform) (a : Grammar)
  | choice (alternatives : List Grammar)
  | withError (message : String) (a : Grammar)
  | report (settings : Report.Settings) (a : Grammar)
  | lowercase
  | uppercase
  | character
  | digit
  | whitespace
  | word
  | wordRecursive
  | words
  | anyChar
  | take (n : Nat)
  | literal (text : String)
  | pure (text : String)
  | nil
  | fail (offset : Nat) (message : String)
  | fix (name : String) (a : Grammar)
  | ref (name : String)

namespace Grammar

/-- The parsers that names stand for, the innermost first. -/
abbrev Scope := List (String × Parser Value)

/-- A tree that waits for the parsers its references stand for. -/
abbrev Open := Scope → Tree Value

/-- A leaf of text. -/
def textLeaf (p : Parser String) : Open := fun _ => .leaf (p.map .text)

/-- What is said of a reference to nothing. -/
def unboundReference (name : String) : String := "unbound reference " ++ name

/-- The parser of a reference. -/
def resolve (name : String) (scope : Scope) : Parser Value :=
  (scope.lookup name).getD (Parser.fail 0 (unboundReference name))

/-- The recursive parser called `name` with the body `t`. -/
def recursive (name : String) (t : Open) (scope : Scope) : Parser Value :=
  Parser.fix fun self => (t ((name, self) :: scope)).parser

/-- Builds a tree around another one. -/
def around (f : Tree Value → Tree Value) (x : Build Open) : Build Open :=
  x.map fun t scope => f (t scope)

/-- Builds a tree from two others, the first one built before the second. -/
def joined (f : Tree Value → Tree Value → Tree Value) (x y : Build Open) : Build Open :=
  x.andThen fun s => y.map fun t scope => f (s scope) (t scope)

/-- Builds a leaf that needs no building. -/
def ready (t : Open) : Build Open := Pure.pure t

mutual

/-- Builds the tree of a grammar, its parts from left to right before it. -/
def build (r : Regex.Resources) : Grammar → Build Open
  | matching pattern message =>
    (Parser.matchingWithError r pattern (message.getD (Parser.couldNotMatch pattern))).map
      textLeaf
  | regex expr message => (Parser.matchingRegex r expr message).map textLeaf
  | endOfInput => ready fun _ => .leaf (Parser.endOfInput.map fun () => .unit)
  | seq a b => joined (fun s t => .map (fun (x, y) => .pair x y) (.seq s t)) (a.build r) (b.build r)
  | left a b => joined .keepLeft (a.build r) (b.build r)
  | right a b => joined .keepRight (a.build r) (b.build r)
  | or a b => joined .or (a.build r) (b.build r)
  | orError a b message => joined (fun s t => .orError s t message) (a.build r) (b.build r)
  | map f a => around (.map f.apply) (a.build r)
  | choice alternatives =>
    (buildAll r alternatives).andThen (Build.choice fun s t scope => .or (s scope) (t scope))
  | withError message a => around (.withError message) (a.build r)
  | report settings a => around (.report settings) (a.build r)
  | lowercase => ready (textLeaf Words.lowercase)
  | uppercase => ready (textLeaf Words.uppercase)
  | character => ready (textLeaf Words.character)
  | digit => ready (textLeaf Words.digit)
  | whitespace => ready (textLeaf Words.whitespace)
  | word => ready (textLeaf Words.word)
  | wordRecursive => ready (textLeaf Words.wordRecursive)
  | words => ready fun _ => .leaf (Words.words.map fun list => .list (list.map .text))
  | anyChar => ready (textLeaf Parser.anyChar)
  | take n => ready (textLeaf (Parser.take n))
  | literal text => ready (textLeaf (Parser.literal text))
  | pure text => ready (textLeaf (Parser.succeed text))
  | nil => ready fun _ => .leaf (Parser.succeed (.list []))
  | fail offset message => ready fun _ => .leaf (Parser.fail offset message)
  | fix name a => (a.build r).map fun t scope => .leaf (recursive name t scope)
  | ref name => ready fun scope => .leaf (resolve name scope)

/-- Builds the trees of some grammars, from left to right. -/
def buildAll (r : Regex.Resources) : List Grammar → Build (List Open)
  | [] => Pure.pure []
  | a :: more => (a.build r).andThen fun t => (buildAll r more).map fun ts => t :: ts

end

/-- Builds the parser of a whole grammar, with the standard resources. -/
def parser (g : Grammar) : Build (Parser Value) :=
  (g.build .standard).map fun t => (t []).parser

end Grammar

end TextParser
