import DocConsole.Connection
import DocConsole.Database.Bson
import DocConsole.Database.ObjectId
import DocConsole.Database.Query
import DocConsole.Database.Regex
import DocConsole.Database.Snapshot
import DocConsole.Edit.Cell
import DocConsole.Edit.Optimistic
import DocConsole.Edit.Row
import DocConsole.Edit.Value
import DocConsole.Execution
import DocConsole.Fault
import DocConsole.History
import DocConsole.Intake
import DocConsole.Json.Reader
import DocConsole.Json.Token
import DocConsole.Json.Writer
import DocConsole.Literal
import DocConsole.Number.Binary64
import DocConsole.Number.Decimal128
import DocConsole.Number.Literal
import DocConsole.Number.Shortest
import DocConsole.Paging
import DocConsole.Result.Basic
import DocConsole.Result.Csv
import DocConsole.Service.Basic
import DocConsole.Service.Request
import DocConsole.Session.Basic
import DocConsole.Session.Console
import DocConsole.Settings.Basic
import DocConsole.Settings.Lenient
import DocConsole.Statement.Command
import DocConsole.Statement.Parts
import DocConsole.Statement.Reader
import DocConsole.Statement.Shape
import DocConsole.Store.Basic
import DocConsole.Store.Call
import DocConsole.Store.Condition
import DocConsole.Text.Base64
import DocConsole.Text.Blank
import DocConsole.Text.DecimalDigit
import DocConsole.Text.Joined
import DocConsole.Text.Letter
import DocConsole.Text.Pattern
import DocConsole.Text.Printable
import DocConsole.Text.Quoted
import DocConsole.Value.Basic
import DocConsole.Value.Comparison
import DocConsole.Value.Display
import DocConsole.Value.Moment
import DocConsole.Proofs.Store.Listing
import DocConsole.Proofs.Store.Scan
import DocConsole.Proofs.Store.Writes
import DocConsole.Proofs.Execution
import DocConsole.Proofs.Finding
import DocConsole.Proofs.Session.Run
import DocConsole.Proofs.Session.Turns
import DocConsole.Proofs.Paging
import DocConsole.Proofs.Session.Stack
import DocConsole.Proofs.Session.Browsing
import DocConsole.Proofs.Session.Origins
import DocConsole.Proofs.Session.Responses
import DocConsole.Proofs.Session.Newest
import DocConsole.Proofs.Session.LastRun
import DocConsole.Proofs.Session.OneQuery
import DocConsole.Proofs.Session.Forgetting
import DocConsole.Proofs.Number.Digits
import DocConsole.Proofs.Number.Rounding
import DocConsole.Proofs.Text.Recognition
import DocConsole.Proofs.Statement.Recognition
import DocConsole.Proofs.Statement.Target
import DocConsole.Proofs.Number.LiteralText
import DocConsole.Proofs.Number.FloatText
import DocConsole.Proofs.Text.Layout
import DocConsole.Proofs.Json.Texts
import DocConsole.Proofs.Statement.Words
import DocConsole.Proofs.Json.RoundTrip
import DocConsole.Proofs.Statement.Change
import DocConsole.Proofs.Statement.Condition
import DocConsole.Proofs.Statement.Insertion
import DocConsole.Proofs.Edit.Unchanged
import DocConsole.Proofs.Edit.Changes
import DocConsole.Proofs.Edit.Mirror
import DocConsole.Proofs.Service.Changes
import DocConsole.Proofs.Statement.Failures
import DocConsole.Proofs.Database.Addressing
import DocConsole.Proofs.Session.Ledger
import DocConsole.Proofs.Session.Exhibits
import DocConsole.Proofs.Edit.Places
import DocConsole.Proofs.Result.Reading
import DocConsole.Proofs.Statement.Spelling
import DocConsole.Proofs.Session.Retrying
import DocConsole.Proofs.Finite
import DocConsole.Proofs.Edit.Editor
import DocConsole.Proofs.Json.Breaks
import DocConsole.Proofs.Statement.Bodies
import DocConsole.Proofs.Statement.Literals
import DocConsole.Proofs.Store.Operators
import DocConsole.Proofs.Database.Plain
import DocConsole.Proofs.Database.Selection
import DocConsole.Proofs.Number.Overflow
import DocConsole.Proofs.Number.Grammar
import DocConsole.Proofs.Number.Value
import DocConsole.Proofs.Json.Rendering
import DocConsole.Proofs.Settings.Reading
import DocConsole.Proofs.Service.Connecting
import DocConsole.Proofs.Session.Counting
import DocConsole.Proofs.Service.InForce
import DocConsole.Proofs.Store.FirstUse
import DocConsole.Proofs.Replay
import DocConsole.Proofs.Handover
