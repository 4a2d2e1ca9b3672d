import Nnrp.FailurePropagation
import Nnrp.ResumeToken
import Nnrp.Reopening
import Nnrp.ConnectionScope
import Nnrp.OpenCorrelation
import Nnrp.SubmitOnce
import Nnrp.ReadCancellation
import Nnrp.SecureRoute
import Nnrp.PacketFramers
import Nnrp.SessionCancel
import Nnrp.TerminalOutcome
import Nnrp.OutputOrder
import Nnrp.CrossingCancellation
import Nnrp.ControlRound
import Nnrp.SubmitWait
import Nnrp.ClosingSession
import Nnrp.RetryableSend
import Nnrp.TransportStore
import Nnrp.BatchRead
import Nnrp.OpenAcknowledgement
import Nnrp.CacheNegotiation
import Nnrp.SelectionOrder
import Nnrp.ControlCodecs
import Nnrp.OperationRetirement
import Nnrp.TypedPayload
import Nnrp.RecoveryTicket
import Nnrp.TileIndex
import Nnrp.SubmitMask
import Nnrp.ReservationHistory
import Nnrp.SchemaRegistry
import Nnrp.ProbeSummary
