import Freight.Interaction.Concurrency
import Freight.Store.Verdicts
import Freight.Proofs.Representation
import Freight.Proofs.StoreWellFormed
import Freight.Proofs.ExactlyOnce
import Freight.Proofs.RelaySafety
import Freight.Proofs.DuplicateAnswers
import Freight.Proofs.Timelines
import Freight.Proofs.ProjectionReplay
import Freight.Proofs.Lateness
import Freight.Proofs.DeliverySettlement
import Freight.Proofs.BoundedRetry
import Freight.Proofs.AtomicRecording
import Freight.Proofs.LifecycleLanguage
import Freight.Store.Sequence
import Freight.Proofs.OutboundPublication
import Freight.Proofs.Collisions
import Freight.Proofs.Redelivery
import Freight.Proofs.CrossTimeline
import Freight.Proofs.LifecycleClock
import Freight.Proofs.RecordedOrder
import Freight.Proofs.MessageSafety
import Freight.Proofs.TimelineIndependence
import Freight.Proofs.UndecodableMessages
import Freight.Proofs.BusinessErrors
import Freight.Proofs.Classification
import Freight.Proofs.CommittedAnswers
import Freight.Proofs.TopologySafety
import Freight.Interaction.Recording
import Freight.Interaction.Coupling
import Freight.Messaging.Relay
import Freight.Messaging.RelayWorker
import Freight.Store.RelayProtocol
import Freight.Store.RelayLog
import Freight.Store.RelayClaims
import Freight.Proofs.RelayFairness
import Freight.Proofs.OutboxLedger
import Freight.Text.Numbers
import Freight.Text.Strings
import Freight.Domain.JsonOrder
import Freight.Text.JsonText
import Freight.Text.JsonRoundTrip
import Freight.Messaging.SerializedMessage
import Freight.Proofs.StoredEnvelope
import Freight.Proofs.RetryDelay
import Freight.Observability.Context
import Freight.Observability.Http
import Freight.Proofs.CorrelationCoupling
import Freight.Proofs.CorrelationIdentity
import Freight.Interaction.Refinement
import Freight.Application.Ports
import Freight.Store.Lone
import Freight.Store.Mirror
import Freight.Proofs.PlainStores
import Freight.Text.IsoFormat
import Freight.Text.Ascii
import Freight.Text.JsonLimits
import Freight.Messaging.EventWire
import Freight.Proofs.WireTransparency
import Freight.Proofs.DeadlockFreedom
import Freight.Proofs.OutboxBacklog
import Freight.Proofs.IngestionDrain
import Freight.Proofs.RelayBurst
import Freight.Proofs.Serializability
import Freight.Text.JsonLines
import Freight.Observability.Logging
import Freight.Proofs.LogStream
import Freight.Proofs.IngestionLedger
