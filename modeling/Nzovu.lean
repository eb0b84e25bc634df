import Nzovu.Library.Transition
import Nzovu.Library.Tally
import Nzovu.Library.Dict
import Nzovu.Library.Queue
import Nzovu.Ownership
import Nzovu.Heartbeat.Config
import Nzovu.Heartbeat.Worker
import Nzovu.Heartbeat.Registry
import Nzovu.Heartbeat.Accounting
import Nzovu.Client.Operations
import Nzovu.Client.System
import Nzovu.Client.Admission
import Nzovu.Client.Protection
import Nzovu.Client.EventLoop
import Nzovu.Client.Shutdown
import Nzovu.Client.Isolation
import Nzovu.Client.Rollback
import Nzovu.Heartbeat.LoopBound
import Nzovu.Heartbeat.Callback
import Nzovu.Heartbeat.Lifetime
import Nzovu.Library.Cursor
import Nzovu.Library.Chain
import Nzovu.Client.Pagination
import Nzovu.Client.Resumption
import Nzovu.Python.Call
import Nzovu.Client.PageArguments
import Nzovu.Client.PageObjects
import Nzovu.Proto.Message
import Nzovu.Conversion
import Nzovu.Library.Decimal
import Nzovu.Library.Regex
import Nzovu.Request.Duration
import Nzovu.Request.DurationExact
import Nzovu.Request.Payload
import Nzovu.Request.Message
import Nzovu.Request.Headers
import Nzovu.Request.RoundTrip
import Nzovu.Request.Schedule
import Nzovu.Request.Bulk
import Nzovu.Request.DurationGrammar
import Nzovu.Client.Rejection
import Nzovu.Library.Projection
import Nzovu.Heartbeat.Statistics
import Nzovu.Client.Projection
import Nzovu.Client.Observation
import Nzovu.Request.Construct
import Nzovu.Request.Queue
import Nzovu.Python.Model
import Nzovu.Response.Fitting
import Nzovu.Response.Models
import Nzovu.Response.ToModel
import Nzovu.Library.Row
import Nzovu.Request.ScheduleRoundTrip
import Nzovu.Service.Rpc
import Nzovu.Service.Typed
import Nzovu.Service.Method
import Nzovu.Service.Transport
import Nzovu.Service.Facade
import Nzovu.Service.RoundTrip
import Nzovu.Service.Rejection
import Nzovu.Service.Claims
import Nzovu.Service.Agreement
import Nzovu.Client.Connection
import Nzovu.Client.Construction
import Nzovu.Client.Wire
import Nzovu.Client.Pages
import Nzovu.Client.Beats
