import Prose.Main
import Prose.Tree.Workbench
import Prose.Proofs.Expr.Arithmetic
import Prose.Proofs.Expr.Tree
import Prose.Proofs.Expr.Grammar
import Prose.Proofs.Expr.Written
import Prose.Proofs.Expr.Conversion
import Prose.Proofs.Expr.Infix
import Prose.Proofs.Expr.Locality
import Prose.Proofs.Expr.Substitution
import Prose.Proofs.Expr.Idempotence
import Prose.Proofs.Expr.Replacement
import Prose.Proofs.Pattern.Consumption
import Prose.Proofs.Pattern.Language
import Prose.Proofs.Pattern.Separation
import Prose.Proofs.Tree.Leaves
import Prose.Proofs.Parse.Canonical
import Prose.Proofs.Parse.Document
import Prose.Proofs.Parse.Conservation
import Prose.Proofs.Parse.Paragraph
import Prose.Proofs.Parse.Sign
import Prose.Proofs.Parse.Shape
import Prose.Proofs.Pipeline
import Prose.Proofs.Analysis.Vowels
import Prose.Proofs.Settings.Written
import Prose.Proofs.Settings.Load
import Prose.Proofs.Command.Run
import Prose.Proofs.Expr.Remainder
import Prose.Proofs.Pipeline.Lines
import Prose.Proofs.Pipeline.Outcome
import Prose.Proofs.Tree.Workbench
import Prose.Proofs.Tree.Outline
import Prose.Proofs.Command.Replay
import Prose.Proofs.Expr.Machine
import Prose.Proofs.Expr.Rearrangement
import Prose.Proofs.Expr.Piece
import Prose.Proofs.Expr.Printed
import Prose.Proofs.Expr.Wrapping
import Prose.Proofs.Expr.Balancing
import Prose.Proofs.Settings.Override
import Prose.Proofs.Parse.Word
import Prose.Proofs.Parse.Cutting
import Prose.Proofs.Parse.Tiling
import Prose.Proofs.Analysis.Groups
import Prose.Proofs.Analysis.Order
import Prose.Proofs.Analysis.Vocabulary
import Prose.Proofs.Analysis.Reordering
import Prose.Proofs.Parse.Layout
