import RowQuery.Cell
import RowQuery.Command.Arguments
import RowQuery.Command.Check
import RowQuery.Command.Error
import RowQuery.Command.Manual
import RowQuery.Command.Run
import RowQuery.Header
import RowQuery.Json.Builtin
import RowQuery.Json.Format
import RowQuery.Json.Number
import RowQuery.Json.Printer
import RowQuery.Json.Reader
import RowQuery.Json.Value
import RowQuery.Main
import RowQuery.Pattern.Bracket
import RowQuery.Pattern.Builtin
import RowQuery.Pattern.Defect
import RowQuery.Pattern.Engine
import RowQuery.Pattern.Escape
import RowQuery.Pattern.Flags
import RowQuery.Pattern.Group
import RowQuery.Pattern.Matching
import RowQuery.Pattern.Reading
import RowQuery.Pattern.Regex
import RowQuery.Pattern.Size
import RowQuery.Pattern.Whole
import RowQuery.Predicate
import RowQuery.Query.Operator
import RowQuery.Query.ReadError
import RowQuery.Query.Reader
import RowQuery.Query.Scanner
import RowQuery.Query.Token
import RowQuery.Query.Tree
import RowQuery.QuickFilter
import RowQuery.Recall
import RowQuery.Selection
import RowQuery.Sheet
import RowQuery.SheetJson
import RowQuery.Text.Decimal
import RowQuery.Text.Escaped
import RowQuery.Text.Quoted
import RowQuery.Text.Reading
import RowQuery.Text.Shortest
import RowQuery.Unicode.Age
import RowQuery.Unicode.Binary
import RowQuery.Unicode.CaseTables
import RowQuery.Unicode.Category
import RowQuery.Unicode.CharSet
import RowQuery.Unicode.Folding
import RowQuery.Unicode.Letter
import RowQuery.Unicode.Lowercase
import RowQuery.Unicode.Property
import RowQuery.Unicode.Script
import RowQuery.Unicode.Segmentation
import RowQuery.Unicode.WhiteSpace
import RowQuery.Proofs.Truth
import RowQuery.Proofs.Comparison
import RowQuery.Proofs.Grammar
import RowQuery.Proofs.Recognition
import RowQuery.Proofs.Scanning
import RowQuery.Proofs.Reading
import RowQuery.Proofs.Pieces
import RowQuery.Proofs.Printing
import RowQuery.Proofs.Joining
import RowQuery.Proofs.Naming
import RowQuery.Proofs.Progress
import RowQuery.Proofs.Resuming
import RowQuery.Proofs.Pattern.Bracket
import RowQuery.Proofs.Pattern.Group
import RowQuery.Proofs.Pattern.Matching
import RowQuery.Proofs.Pattern.Action
import RowQuery.Proofs.Pattern.Semantics
import RowQuery.Proofs.Pattern.Parens
import RowQuery.Proofs.Pattern.Builtin
import RowQuery.Proofs.Pattern.Anchor
import RowQuery.Proofs.Columns
import RowQuery.Proofs.Tiling
import RowQuery.Proofs.Defects
import RowQuery.Proofs.Stages
import RowQuery.Proofs.QuickFilters
import RowQuery.Proofs.QuickQueries
import RowQuery.Proofs.Recall
import RowQuery.Proofs.Json
import RowQuery.Proofs.Checking
import RowQuery.Proofs.Parentheses
import RowQuery.Proofs.Lowercase
import RowQuery.Proofs.Pattern.Obstruction
import RowQuery.Proofs.Navigation
import RowQuery.Proofs.Sheets
import RowQuery.Proofs.Bytes
import RowQuery.Proofs.TotalOrder
import RowQuery.Proofs.Numerals
import RowQuery.Proofs.Positions
import RowQuery.Proofs.ColumnNumbers
import RowQuery.Proofs.Quotes
import RowQuery.Proofs.OperatorText
import RowQuery.Proofs.SameLetters
