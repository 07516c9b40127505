import VolSync.Kube.Object
import VolSync.Kube.Client
import VolSync.Meta
import VolSync.Rsync.Options
import VolSync.Endpoint
import VolSync.Transport
import VolSync.Transfer
import VolSync.Rsync.Server
import VolSync.Rsync.Client
import VolSync.Cleanup
import VolSync.Mover
import VolSync.Frame
import VolSync.DataPath
import VolSync.Shell
import VolSync.Pairing
import VolSync.Synchronize
import VolSync.ClientGuard
import VolSync.Sweep
import VolSync.Run
import VolSync.Converge
import VolSync.Retry
import VolSync.Readiness
import VolSync.WellFormed
import VolSync.Isolation
import VolSync.Sharing
import VolSync.Progress
import VolSync.Publish
