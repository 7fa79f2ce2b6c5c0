import TextParser.Describe
import TextParser.Grammar
import TextParser.Main
import TextParser.Parsed.Step
import TextParser.WordLines
import TextParser.Proofs.Library
import TextParser.Proofs.Tree.Provenance
import TextParser.Proofs.Parser.Choice
import TextParser.Proofs.Parser.Sequence
import TextParser.Proofs.Parser.Pasted
import TextParser.Proofs.Words.Recursive
import TextParser.Proofs.Parser.Verbatim
import TextParser.Proofs.Tree.Reports
import TextParser.Proofs.Tree.Shape
import TextParser.Proofs.Report.Places
import TextParser.Proofs.Checked.Parser
import TextParser.Proofs.Checked.Words
import TextParser.Proofs.Checked.Tree
import TextParser.Proofs.Parser.Recursion
import TextParser.Proofs.Report.Window
import TextParser.Proofs.Words.Loop
import TextParser.Proofs.Words.Fallbacks
import TextParser.Proofs.Parser.Factoring
import TextParser.Proofs.Parser.Commitment
import TextParser.Proofs.Report.Shifted
import TextParser.Proofs.Parser.Laws
import TextParser.Proofs.Tree.Inwards
import TextParser.Proofs.Tree.Reporter
import TextParser.Proofs.Parser.Reordering
import TextParser.Proofs.Words.Levels
import TextParser.Proofs.WordLines
import TextParser.Proofs.Words.Munch
