import Flowsql.Baseline.BasisRefresh
import Flowsql.Baseline.CalendarMatch
import Flowsql.Baseliner.BucketRuns
import Flowsql.Baseliner.ModelIdentity
import Flowsql.Baseliner.PollRuns
import Flowsql.Baseliner.SnapshotRuns
import Flowsql.Baseliner.StoreRuns
import Flowsql.Capture.ProgressTracker
import Flowsql.Capture.ReaderRuns
import Flowsql.Capture.Timestamp
import Flowsql.Database.AtomicRuns
import Flowsql.Frame.DispatchWork
import Flowsql.Gateway.RouteTable
import Flowsql.Kafka.ReaderRuns
import Flowsql.Kafka.RowAccounting
import Flowsql.Npi.EnumerateRules
import Flowsql.Npi.LayerAdvance
import Flowsql.Npm.AdmissionRuns
import Flowsql.Npm.DnsNames
import Flowsql.Npm.DnsRuns
import Flowsql.Npm.DnsStreams
import Flowsql.Npm.SessionKeyRuns
import Flowsql.Npm.SessionTotals
import Flowsql.Npm.StreamDeadline
import Flowsql.Npm.TcpRoundTrips
import Flowsql.Npm.TlsHandshakeRuns
import Flowsql.Pipeline.ChainRuns
import Flowsql.Pipeline.RunnerRuns
import Flowsql.Scheduler.BatchRuns
import Flowsql.Scheduler.BlockTransfer
import Flowsql.Scheduler.GroupRuns
import Flowsql.Scheduler.LeaseAccounting
import Flowsql.Scheduler.PlannerGuarantees
import Flowsql.Scheduler.RuntimeRetention
import Flowsql.Scheduler.RuntimeRuns
import Flowsql.Scheduler.SharedRuns
import Flowsql.Scheduler.TaskFailures
import Flowsql.Sql.TextSplitter
import Flowsql.Sql.WhereClause
import Flowsql.Stream.RingChannelEnds
import Flowsql.Task.ExecutionRuns
import Flowsql.Task.TaskOperations
import Flowsql.Web.UploadRuns
