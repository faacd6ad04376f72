import Tether.Unicode.Letter
import Tether.Unicode.Case
import Tether.Unicode.Printing
import Tether.Unicode.Emoji
import Tether.Unicode.Picture
import Tether.Unicode.Ligature
import Tether.Unicode.Width
import Tether.Unicode.Grapheme
import Tether.Number.Power
import Tether.Number.Decimal
import Tether.Text.Split
import Tether.Text.Quoted
import Tether.Expr.Token
import Tether.Expr.Parser
import Tether.Document.Printer
import Tether.Document.Reader
import Tether.Value.Basic
import Tether.Eval.Error
import Tether.Value.Text
import Tether.Value.Order
import Tether.Value.Arithmetic
import Tether.Text.Casing
import Tether.Native.Basic
import Tether.Native.Builtin
import Tether.Native.Library
import Tether.Eval.Evaluator
import Tether.Eval.Counter
import Tether.Line.Key
import Tether.Line.Editor
import Tether.Line.Input
import Tether.Complete.Word
import Tether.Complete.Call
import Tether.Complete.Candidate
import Tether.Complete.Fuzzy
import Tether.Complete.Ranking
import Tether.Complete.Signature
import Tether.History.Log
import Tether.Text.Shell
import Tether.Editing.Command
import Tether.Editing.Prompt
import Tether.Editing.Failure
import Tether.Editing.Loop
import Tether.Session.Update
import Tether.Screen.Style
import Tether.Screen.Window
import Tether.Screen.Bar
import Tether.Screen.Layout
import Tether.Screen.Status
import Tether.Screen.Typesetter
import Tether.Screen.Wrap
import Tether.Screen.Terminal
import Tether.Screen.Pane
import Tether.Screen.Frame
import Tether.Startup.Origin
import Tether.Startup.Options
import Tether.Startup.Launch
import Tether.Main
import Tether.Proofs.Outcome
import Tether.Proofs.Unicode.Names
import Tether.Proofs.Text.Split
import Tether.Proofs.Document.Valid
import Tether.Proofs.Document.RoundTrip
import Tether.Proofs.Expr.Completeness
import Tether.Proofs.Expr.Height
import Tether.Proofs.Expr.Tallest
import Tether.Proofs.Line.Cursor
import Tether.Proofs.Line.Typing
import Tether.Proofs.Complete.Word
import Tether.Proofs.Complete.Signature
import Tether.Proofs.Session.Refresh
import Tether.Proofs.History.Log
import Tether.Proofs.Session.Press
import Tether.Proofs.Session.Handlers
import Tether.Proofs.Session.Run
import Tether.Proofs.Editing.Loop
import Tether.Proofs.History.Write
import Tether.Proofs.Eval.Validate
import Tether.Proofs.Eval.Agreement
import Tether.Proofs.Eval.Arithmetic
import Tether.Proofs.Native.Callbacks
import Tether.Proofs.Eval.Comparison
import Tether.Proofs.Eval.Naming
import Tether.Proofs.Eval.Irrelevance
import Tether.Proofs.Eval.Counter
import Tether.Proofs.Text.Segments
import Tether.Proofs.Eval.Lookup
import Tether.Proofs.Native.Names
import Tether.Proofs.Native.Numbers
import Tether.Proofs.Complete.Candidate
import Tether.Proofs.Complete.Hint
import Tether.Proofs.Number.Nearest
import Tether.Proofs.Eval.Integers
import Tether.Proofs.Session.CommandBrowse
import Tether.Proofs.Session.Draft
import Tether.Proofs.Session.Offers
import Tether.Proofs.Session.TabCycle
import Tether.Proofs.Session.Parking
import Tether.Proofs.Line.BigWord
import Tether.Proofs.Screen.Window
import Tether.Proofs.Screen.Wrap
import Tether.Proofs.Screen.Terminal
import Tether.Proofs.Screen.Pane
import Tether.Proofs.Document.Blocks
import Tether.Proofs.Document.Faults
import Tether.Proofs.Expr.Placement
import Tether.Proofs.Expr.Spacing
import Tether.Proofs.History.Recency
import Tether.Proofs.Session.Detour
import Tether.Proofs.Session.Confirm
import Tether.Proofs.Native.Limit
import Tether.Proofs.Complete.Call
import Tether.Proofs.Complete.Parameter
import Tether.Proofs.Session.Requests
import Tether.Proofs.Complete.Ranking
import Tether.Proofs.Complete.Parent
import Tether.Proofs.Native.Texts
import Tether.Proofs.Eval.Selection
import Tether.Proofs.Eval.References
import Tether.Proofs.Text.Parts
import Tether.Proofs.Text.Casing
import Tether.Proofs.Line.Change
import Tether.Proofs.Line.Undo
import Tether.Proofs.Line.WordMotion
import Tether.Proofs.Session.Listing
import Tether.Proofs.Value.Text
import Tether.Proofs.Value.Tokens
import Tether.Proofs.Value.ReadBack
