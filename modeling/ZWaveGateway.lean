import ZWaveGateway.Gateway.Operation
import ZWaveGateway.Proofs.Event.Hearing
import ZWaveGateway.Proofs.Gateway.Lifecycle
import ZWaveGateway.Proofs.Gateway.UntrackedFrames
import ZWaveGateway.Proofs.Link.Outgoing
import ZWaveGateway.Proofs.Link.Replies
import ZWaveGateway.Proofs.Tracker.AnswerKind
import ZWaveGateway.Proofs.Tracker.Coherence
import ZWaveGateway.Proofs.Tracker.Endings
import ZWaveGateway.Proofs.Tracker.History
import ZWaveGateway.Proofs.Tracker.LostResponse
import ZWaveGateway.Proofs.Tracker.MalformedAnswer
import ZWaveGateway.Proofs.Tracker.Operations
import ZWaveGateway.Proofs.Tracker.ReportFault
import ZWaveGateway.Proofs.Tracker.ResponseOrder
import ZWaveGateway.Proofs.Transaction.Judgement
import ZWaveGateway.Settings
import ZWaveGateway.Sweeper
import ZWaveGateway.Proofs.Serial.Chunks
import ZWaveGateway.Proofs.Serial.RoundTrip
import ZWaveGateway.Proofs.Request.FailedDispatch
import ZWaveGateway.Proofs.Command.WireForm
import ZWaveGateway.Proofs.Tracker.Invariant
import ZWaveGateway.Proofs.Tracker.Reception
import ZWaveGateway.Proofs.Request.Gates
import ZWaveGateway.Proofs.Request.Updating
import ZWaveGateway.Proofs.Event.Registrations
import ZWaveGateway.Proofs.Gateway.Broadcast
import ZWaveGateway.Tracker.Shared
import ZWaveGateway.Proofs.Tracker.SubmissionOrder
import ZWaveGateway.Proofs.Serial.Recovery
import ZWaveGateway.Proofs.Tracker.Expiry
import ZWaveGateway.Proofs.Tracker.AllOrNothing
import ZWaveGateway.Proofs.Tracker.EitherOrder
import ZWaveGateway.Proofs.Transaction.ReportReading
import ZWaveGateway.Proofs.Request.ToldNode
import ZWaveGateway.Proofs.Transaction.VersionText
import ZWaveGateway.Proofs.Transaction.Ending
