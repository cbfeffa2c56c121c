import ConsoleSweep.Main
import ConsoleSweep.Pattern.Backtrack
import ConsoleSweep.Pattern.Store
import ConsoleSweep.Text.Case
import ConsoleSweep.Text.Category
import ConsoleSweep.Text.Control
import ConsoleSweep.Text.Property
import ConsoleSweep.Text.Script
import ConsoleSweep.Expression.CharClass
import ConsoleSweep.Expression.Mistake
import ConsoleSweep.Expression.Basic
import ConsoleSweep.Expression.Finder
import ConsoleSweep.Expression.Reader
import ConsoleSweep.Expression.Reader.Atom
import ConsoleSweep.Expression.Reader.Class
import ConsoleSweep.Expression.Reader.Whole
import ConsoleSweep.Expression.Compile
import ConsoleSweep.Proofs.Parens.Depth
import ConsoleSweep.Proofs.Parens.Pairs
import ConsoleSweep.Proofs.Pattern.Reading
import ConsoleSweep.Proofs.Call.Basic
import ConsoleSweep.Proofs.Pattern.Shape
import ConsoleSweep.Proofs.Pattern.Language
import ConsoleSweep.Proofs.Call.Sweep
import ConsoleSweep.Proofs.Pattern.Hits
import ConsoleSweep.Proofs.Config
import ConsoleSweep.Proofs.Call.Verdict
import ConsoleSweep.Proofs.Call.Edits
import ConsoleSweep.Proofs.Call.Outermost
import ConsoleSweep.Proofs.Call.Bound
import ConsoleSweep.Proofs.Call.Kept
import ConsoleSweep.Proofs.Edit.Deletions
import ConsoleSweep.Proofs.Edit.Balance
import ConsoleSweep.Proofs.Call.Survival
import ConsoleSweep.Proofs.Call.Structure
import ConsoleSweep.Proofs.Call.Passes
import ConsoleSweep.Proofs.Pattern.Line
import ConsoleSweep.Proofs.Comment.Edits
import ConsoleSweep.Proofs.Comment.Closing
import ConsoleSweep.Proofs.Call.Twice
import ConsoleSweep.Proofs.Comment.Lines
import ConsoleSweep.Proofs.Pattern.Unambiguous
import ConsoleSweep.Proofs.Pattern.Groups
import ConsoleSweep.Proofs.Transform.Order
import ConsoleSweep.Proofs.Comment.Union
import ConsoleSweep.Proofs.Comment.Marks
import ConsoleSweep.Proofs.Call.Marked
import ConsoleSweep.Proofs.File.Overwrite
import ConsoleSweep.Proofs.Tool.Request
import ConsoleSweep.Proofs.Tool.Session
import ConsoleSweep.Proofs.Tool.Log
import ConsoleSweep.Proofs.Call.Selection
import ConsoleSweep.Proofs.Call.Concat
import ConsoleSweep.Proofs.Edit.Undo
import ConsoleSweep.Proofs.Text.LineTable
import ConsoleSweep.Proofs.Transform.Outcome
import ConsoleSweep.Proofs.Call.Account
import ConsoleSweep.Proofs.Pattern.Store
import ConsoleSweep.Proofs.Transform.Build
import ConsoleSweep.Proofs.Parens.Counter
import ConsoleSweep.Proofs.Edit.Tally
import ConsoleSweep.Proofs.Transform.Identifier
import ConsoleSweep.Proofs.File.Path
