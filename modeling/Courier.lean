import Courier.Command.Same
import Courier.Engine.Outline
import Courier.Local.Table
import Courier.Log.Line
import Courier.Operation.Bench
import Courier.Proofs.Attendance
import Courier.Proofs.Counters
import Courier.Proofs.Deletion
import Courier.Proofs.ForeignFlags
import Courier.Proofs.Layering
import Courier.Proofs.LocalEnds
import Courier.Proofs.Obtaining
import Courier.Proofs.Permissions
import Courier.Proofs.Rendering
import Courier.Proofs.Resolution
import Courier.Proofs.Secrecy
import Courier.Proofs.Sessions
import Courier.Proofs.SharedBuffers
import Courier.Proofs.Touching
import Courier.Proofs.Uniqueness
import Courier.Proofs.Wording
import Courier.RemotePath.Order
import Courier.Settings.Draft
import Courier.Transport.Rehearsal
