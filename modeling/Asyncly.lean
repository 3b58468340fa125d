import Asyncly.Client.RetryAfter
import Asyncly.Client.RetryEvents
import Asyncly.Client.Backoff
import Asyncly.Client.Escapes
import Asyncly.Client.SocketAttempts
import Asyncly.Client.Replay
import Asyncly.Client.ProxyCredential
import Asyncly.Client.Normalization
import Asyncly.Metrics.Transparency
import Asyncly.Metrics.Recorded
import Asyncly.Metrics.InFlight
import Asyncly.Metrics.Blocks
import Asyncly.Metrics.RouteLabels
import Asyncly.Metrics.Backends
import Asyncly.Metrics.TraceConfig
import Asyncly.Metrics.TraceIsolation
import Asyncly.Metrics.Concurrency
import Asyncly.Srvmocker.History
import Asyncly.Srvmocker.Assertions
import Asyncly.Srvmocker.Inclusion
import Asyncly.Srvmocker.JsonEquality
import Asyncly.Srvmocker.Snapshots
import Asyncly.Srvmocker.Credentials
import Asyncly.Srvmocker.HopByHop
import Asyncly.Srvmocker.Sequence
import Asyncly.Srvmocker.Content
import Asyncly.Srvmocker.Loopback
import Asyncly.Srvmocker.Serving
import Asyncly.Srvmocker.BehindProxy
import Asyncly.Tools.Artifacts
import Asyncly.Tools.Extraction
import Asyncly.Tools.Containment
import Asyncly.Tools.VersionOrder
import Asyncly.Tools.Changelog
import Asyncly.Tools.ReleaseNotes
import Asyncly.Tools.LinkHistory
import Asyncly.Tools.SectionEdits
import Asyncly.Tools.ExitCodes
