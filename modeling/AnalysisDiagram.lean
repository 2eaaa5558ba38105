import AnalysisDiagram.Command.Run
import AnalysisDiagram.Compiler
import AnalysisDiagram.Journal.Loggers
import AnalysisDiagram.Main
import AnalysisDiagram.Proofs.Compiler.Output
import AnalysisDiagram.Proofs.Compiler.Spacing
import AnalysisDiagram.Proofs.Compiler.Stops
import AnalysisDiagram.Proofs.Json.Spelling
import AnalysisDiagram.Proofs.Lowering.Comments
import AnalysisDiagram.Proofs.Lowering.Completeness
import AnalysisDiagram.Proofs.Lowering.Lookalike
import AnalysisDiagram.Proofs.Lowering.Machine
import AnalysisDiagram.Proofs.Lowering.Origins
import AnalysisDiagram.Proofs.Lowering.Recursion
import AnalysisDiagram.Proofs.Lowering.Shape
import AnalysisDiagram.Proofs.Lowering.Steps
import AnalysisDiagram.Proofs.Outcome
import AnalysisDiagram.Proofs.Tree.Rows
import AnalysisDiagram.Proofs.Tree.Tokens
import AnalysisDiagram.Proofs.Wire.Drafts
import AnalysisDiagram.Proofs.Wire.Faults
import AnalysisDiagram.Proofs.Wire.RoundTrip
import AnalysisDiagram.Proofs.Wire.Writing
import AnalysisDiagram.Wire.Reading
import AnalysisDiagram.Proofs.Wire.Grammar
import AnalysisDiagram.Proofs.Registry
import AnalysisDiagram.Proofs.Command.Note
import AnalysisDiagram.Proofs.Command.Opening
import AnalysisDiagram.Proofs.Command.Status
import AnalysisDiagram.Proofs.Compiler.Rejection
import AnalysisDiagram.Proofs.Text.Utf8
import AnalysisDiagram.Proofs.Tree.Excerpt
import AnalysisDiagram.Proofs.Lowering.Chains
import AnalysisDiagram.Proofs.Tree.Members
import AnalysisDiagram.Proofs.Lowering.Literals
import AnalysisDiagram.Proofs.Wire.Condensing
import AnalysisDiagram.Proofs.Wire.Defects
import AnalysisDiagram.Proofs.Wire.Problems
import AnalysisDiagram.Proofs.Command.Delivery
