import Sccp.Bytes
import Sccp.Scmg
import Sccp.Params
import Sccp.Udt.Message
import Sccp.Udt.Decode
import Sccp.Udt.Encode
import Sccp.Udt.RoundTrip
import Sccp.Udt.MarshalBinary
import Sccp.Manager.Prog
import Sccp.Manager.Handlers
import Sccp.Manager.Step
import Sccp.Manager.Sequential
import Sccp.Manager.Deadlock
import Sccp.Manager.Locking
import Sccp.Manager.Phase
import Sccp.Manager.Invariant
import Sccp.Manager.Timers
import Sccp.Manager.Notify
import Sccp.Manager.Testing
import Sccp.Manager.Local
import Sccp.Manager.TestLoop
import Sccp.Manager.Backoff
import Sccp.Manager.Refinement
import Sccp.Manager.Entries
import Sccp.Manager.Replies
import Sccp.Manager.Pointers
import Sccp.Manager.Progress
import Sccp.Manager.Locality
import Sccp.Manager.Stuck
import Sccp.Manager.Key
