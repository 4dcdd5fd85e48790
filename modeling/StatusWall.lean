import StatusWall.Alert.Machine
import StatusWall.Alert.Sound
import StatusWall.Board.Basic
import StatusWall.Board.Command
import StatusWall.Board.Edit
import StatusWall.Board.Run
import StatusWall.Canvas.Fit
import StatusWall.Canvas.Frame
import StatusWall.Canvas.Paint
import StatusWall.Canvas.Pointer
import StatusWall.Check.State
import StatusWall.Cli.Arguments
import StatusWall.Cli.Grammar
import StatusWall.Cli.Help
import StatusWall.Cli.Record
import StatusWall.Cli.Session
import StatusWall.Cli.Watch
import StatusWall.Client.Basic
import StatusWall.Client.Error
import StatusWall.Decimal.Layout
import StatusWall.Decimal.Literal
import StatusWall.Decimal.Shortest
import StatusWall.Document.CheckOptions
import StatusWall.Document.Dashboard
import StatusWall.Document.Element
import StatusWall.Document.Kind
import StatusWall.Document.Title
import StatusWall.Geometry.Basic
import StatusWall.Geometry.Motion
import StatusWall.Geometry.Scalar
import StatusWall.Gesture.Basic
import StatusWall.Gesture.Drag
import StatusWall.Json.Doc
import StatusWall.Json.Fault
import StatusWall.Json.Printer
import StatusWall.Json.Reader
import StatusWall.Json.Value
import StatusWall.Log
import StatusWall.Main
import StatusWall.Panel.Action
import StatusWall.Panel.Basic
import StatusWall.Polling.Fleet
import StatusWall.Polling.Source
import StatusWall.Polling.Task
import StatusWall.Proofs.Alert.Memory
import StatusWall.Proofs.Board.Alerts
import StatusWall.Proofs.Board.Bounds
import StatusWall.Proofs.Board.Canvas
import StatusWall.Proofs.Board.Change
import StatusWall.Proofs.Board.Chronicle
import StatusWall.Proofs.Board.Entries
import StatusWall.Proofs.Board.Focus
import StatusWall.Proofs.Board.InStep
import StatusWall.Proofs.Board.Mirror
import StatusWall.Proofs.Board.Mount
import StatusWall.Proofs.Board.Places
import StatusWall.Proofs.Board.Refinement
import StatusWall.Proofs.Board.Register
import StatusWall.Proofs.Board.Release
import StatusWall.Proofs.Board.Restart
import StatusWall.Proofs.Board.Runs
import StatusWall.Proofs.Board.Silence
import StatusWall.Proofs.Board.Sound
import StatusWall.Proofs.Board.Status
import StatusWall.Proofs.Board.Sync
import StatusWall.Proofs.Document.Options
import StatusWall.Proofs.Geometry.Canvas
import StatusWall.Proofs.Geometry.Exact
import StatusWall.Proofs.Polling.Numbers
import StatusWall.Proofs.Polling.Silence
import StatusWall.Proofs.Polling.Trail
import StatusWall.Proofs.Polling.Turn
import StatusWall.Settings.Basic
import StatusWall.Settings.File
import StatusWall.Text.Blank
import StatusWall.Text.CaseTable
import StatusWall.Text.HiddenTable
import StatusWall.Text.Lowercase
import StatusWall.Text.Quoted
import StatusWall.Web.Exchange
import StatusWall.Web.Message
import StatusWall.Web.Percent
import StatusWall.Web.Url
import StatusWall.Web.Wire
import StatusWall.Proofs.Document.Binding
import StatusWall.Proofs.Board.Binding
import StatusWall.Proofs.Board.Gesture
import StatusWall.Proofs.Canvas.Frames
import StatusWall.Proofs.Canvas.Windows
import StatusWall.Proofs.Geometry.Shift
import StatusWall.Proofs.Canvas.Drags
import StatusWall.Proofs.Document.Alerting
import StatusWall.Proofs.Board.Alike
import StatusWall.Proofs.Board.Presentation
import StatusWall.Proofs.Polling.Cadence
import StatusWall.Proofs.Binary.Double
import StatusWall.Proofs.Json.Fields
import StatusWall.Proofs.Json.Number
import StatusWall.Proofs.Json.Doc
import StatusWall.Proofs.Json.Reader
import StatusWall.Proofs.Document.Finite
import StatusWall.Proofs.Document.RoundTrip
import StatusWall.Proofs.Board.Moves
import StatusWall.Proofs.Geometry.Range
import StatusWall.Proofs.Board.Range
import StatusWall.Proofs.Board.Refusals
import StatusWall.Proofs.Board.Sessions
import StatusWall.Proofs.Board.Tickers
import StatusWall.Proofs.Geometry.Projection
import StatusWall.Proofs.Json.Spelling
import StatusWall.Proofs.Json.Printer
import StatusWall.Proofs.Settings.File
import StatusWall.Proofs.Geometry.Growth
import StatusWall.Proofs.Geometry.Series
import StatusWall.Proofs.Geometry.Tickers
import StatusWall.Proofs.Board.Collapse
import StatusWall.Proofs.Document.Reread
import StatusWall.Proofs.Board.Overrides
import StatusWall.Proofs.Canvas.Press
import StatusWall.Proofs.Canvas.Hull
import StatusWall.Proofs.Panel.Unedited
import StatusWall.Proofs.Canvas.Fit
import StatusWall.Proofs.Text.Lowercase
import StatusWall.Proofs.Document.Search
import StatusWall.Proofs.Binary.Single
import StatusWall.Proofs.Document.Aspect
import StatusWall.Proofs.Board.Reorder
import StatusWall.Proofs.Web.Address
import StatusWall.Proofs.Alert.Sequence
import StatusWall.Proofs.Document.Slug
