import MetricConsole.Catalog.Shape
import MetricConsole.Console
import MetricConsole.Form.Binding
import MetricConsole.Proofs.Cache.Entry
import MetricConsole.Query.Mutation
import MetricConsole.Query.Session
import MetricConsole.Text.Timestamp
import MetricConsole.Proofs.Cache.History
import MetricConsole.Proofs.Cache.Keys
import MetricConsole.Proofs.Cache.Freshness
import MetricConsole.Proofs.Cache.Results
import MetricConsole.Proofs.Cache.Expiry
import MetricConsole.Proofs.Client.Reach
import MetricConsole.Proofs.Client.Tracking
import MetricConsole.Proofs.Client.Observers
import MetricConsole.Proofs.Client.ReadYourWrites
import MetricConsole.Proofs.Client.WriteEffect
import MetricConsole.Proofs.Catalog.OutOfDate
import MetricConsole.Proofs.Page.Plan
import MetricConsole.Proofs.Page.KeptRows
import MetricConsole.Proofs.Text.FormEncoding
import MetricConsole.Proofs.Text.Integer
import MetricConsole.Proofs.Api.Address
import MetricConsole.Proofs.Client.Silence
import MetricConsole.Proofs.Client.ConfirmedWrite
import MetricConsole.Proofs.Client.Display
import MetricConsole.Proofs.Console.Run
import MetricConsole.Proofs.Console.Dialog
import MetricConsole.Proofs.Console.VersionWrites
import MetricConsole.Proofs.Console.BindingWrites
import MetricConsole.Proofs.Client.Requests
import MetricConsole.Proofs.Client.Guarded
import MetricConsole.Proofs.Text.Blank
import MetricConsole.Proofs.Text.CommaList
import MetricConsole.Proofs.Date.Text
import MetricConsole.Proofs.Date.Order
import MetricConsole.Proofs.Date.Field
import MetricConsole.Proofs.Text.Count
import MetricConsole.Proofs.Json.WellFormed
import MetricConsole.Proofs.Json.Layout
import MetricConsole.Proofs.Json.Printer
import MetricConsole.Proofs.Catalog.Payload
import MetricConsole.Proofs.Catalog.Settled
import MetricConsole.Proofs.Catalog.Filters
import MetricConsole.Proofs.Form.Order
import MetricConsole.Proofs.Form.Field
import MetricConsole.Proofs.Form.Untouched
import MetricConsole.Proofs.Form.Dsl
import MetricConsole.Proofs.Form.Created
import MetricConsole.Proofs.Form.Reopened
import MetricConsole.Proofs.Form.DateRange
import MetricConsole.Proofs.Console.Hooks
import MetricConsole.Proofs.Console.CurrentVersion
import MetricConsole.Proofs.Console.Selection
import MetricConsole.Proofs.Navigation.DeepLink
import MetricConsole.Proofs.Console.Traffic
import MetricConsole.Proofs.Console.Picker
import MetricConsole.Proofs.Console.Busy
import MetricConsole.Proofs.Console.LateAnswer
import MetricConsole.Proofs.Console.UnsavedEdits
import MetricConsole.Proofs.Console.Reports
import MetricConsole.Proofs.Console.LoadFailures
import MetricConsole.Proofs.Console.Overflow
import MetricConsole.Proofs.Page.Warnings
import MetricConsole.Proofs.Page.SubjectAreas
import MetricConsole.Proofs.Text.ByteOrder
