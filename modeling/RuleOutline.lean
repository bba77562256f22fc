import RuleOutline.Unicode.Case
import RuleOutline.Unicode.Blank
import RuleOutline.Token
import RuleOutline.Lines
import RuleOutline.Document
import RuleOutline.Number.Decimal
import RuleOutline.Number.Shortest
import RuleOutline.Datum.Json
import RuleOutline.Datum.Yaml
import RuleOutline.Format
import RuleOutline.Toml.Document
import RuleOutline.Settings.Error
import RuleOutline.Settings.Loader
import RuleOutline.Cursor
import RuleOutline.Datum.Record
import RuleOutline.Command
import RuleOutline.Main
import RuleOutline.Proofs.Token.Cut
import RuleOutline.Proofs.Token.Grammar
import RuleOutline.Proofs.Token.Layout
import RuleOutline.Proofs.Text.Boundary
import RuleOutline.Proofs.Text.Quoted
import RuleOutline.Proofs.Token.CodeLength
import RuleOutline.Proofs.Token.Scan
import RuleOutline.Proofs.Token.Hidden
import RuleOutline.Proofs.Lines
import RuleOutline.Proofs.Position
import RuleOutline.Proofs.LineTable
import RuleOutline.Proofs.Token.Coverage
import RuleOutline.Proofs.Outline.Candidate
import RuleOutline.Proofs.Outline.Rules
import RuleOutline.Proofs.Outline.Offset
import RuleOutline.Proofs.Outline.Append
import RuleOutline.Proofs.Token.Shift
import RuleOutline.Proofs.Outline.Semicolon
import RuleOutline.Proofs.Outline.Groups
import RuleOutline.Proofs.Outline.Comments
import RuleOutline.Proofs.Outline.Alternatives
import RuleOutline.Proofs.Outline.Printed
import RuleOutline.Proofs.Token.Part
import RuleOutline.Proofs.Outline.Span
import RuleOutline.Proofs.Tree.Order
import RuleOutline.Proofs.Tree.Drawing
import RuleOutline.Proofs.Token.Returns
import RuleOutline.Proofs.Outline.Returns
import RuleOutline.Proofs.LeftRecursion
import RuleOutline.Proofs.Outline.Pieces
import RuleOutline.Proofs.Outline.Bars
import RuleOutline.Proofs.Outline.Unrolled
import RuleOutline.Proofs.Outline.Parentheses
import RuleOutline.Proofs.Token.Joined
import RuleOutline.Proofs.Outline.Rewrite
import RuleOutline.Proofs.Outline.Reread
import RuleOutline.Proofs.Outline.Stored
import RuleOutline.Proofs.Tree.Height
import RuleOutline.Proofs.Token.Listing
import RuleOutline.Proofs.Toml.Node
import RuleOutline.Proofs.Toml.Names
import RuleOutline.Proofs.Settings.Value
import RuleOutline.Proofs.Settings.Keys
import RuleOutline.Proofs.Settings.Layers
