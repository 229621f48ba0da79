import BrokerSession.Channel.FrameBuffer
import BrokerSession.Config.Text
import BrokerSession.Sasl.Scripted
import BrokerSession.Session.Advance
import BrokerSession.Proofs.Bytes
import BrokerSession.Proofs.Computation
import BrokerSession.Proofs.Schema.Primitive
import BrokerSession.Proofs.Table
import BrokerSession.Proofs.Schema.Conformance
import BrokerSession.Proofs.Schema.RoundTrip
import BrokerSession.Proofs.Schema.Canonical
import BrokerSession.Proofs.Channel.Outgoing
import BrokerSession.Proofs.Channel.Frame
import BrokerSession.Proofs.Channel.Incoming
import BrokerSession.Proofs.Sasl.Progress
import BrokerSession.Proofs.Sasl.Scram
import BrokerSession.Proofs.Session.Journal
import BrokerSession.Proofs.Session.Exchange
import BrokerSession.Proofs.Session.History
import BrokerSession.Proofs.Session.Dispatch
import BrokerSession.Proofs.Session.Ensures
import BrokerSession.Proofs.Session.Tracking
import BrokerSession.Proofs.Session.Coherence
import BrokerSession.Proofs.Session.Runs
import BrokerSession.Proofs.Session.Pace
import BrokerSession.Proofs.Session.Confirmation
import BrokerSession.Proofs.Session.Stream
import BrokerSession.Proofs.Sasl.Acceptance
import BrokerSession.Proofs.Channel.Patience
import BrokerSession.Proofs.Session.Refusal
import BrokerSession.Proofs.Session.Course
import BrokerSession.Proofs.Sasl.Turn
import BrokerSession.Proofs.Session.Failure
import BrokerSession.Proofs.Session.Invariant
import BrokerSession.Proofs.Session.Answer
import BrokerSession.Proofs.Session.Quiescence
import BrokerSession.Proofs.Session.Confluence
import BrokerSession.Proofs.Session.Versions
import BrokerSession.Proofs.Session.Handover
import BrokerSession.Proofs.Channel.Idle
import BrokerSession.Proofs.Session.Idleness
import BrokerSession.Proofs.Session.Readiness
import BrokerSession.Proofs.Broker.Completion
import BrokerSession.Proofs.Schema.Evolution
import BrokerSession.Proofs.Session.TokenFraming
import BrokerSession.Proofs.Session.Transitions
import BrokerSession.Proofs.Session.Secrecy
import BrokerSession.Proofs.Channel.Feeding
import BrokerSession.Proofs.Channel.Reception
import BrokerSession.Proofs.Session.Correspondence
import BrokerSession.Proofs.Catalog.Histogram
import BrokerSession.Proofs.Channel.Breakage
import BrokerSession.Proofs.Channel.HangUp
import BrokerSession.Proofs.Session.Deeds
import BrokerSession.Proofs.Session.Standing
import BrokerSession.Proofs.Session.Silence
import BrokerSession.Proofs.Session.Accounting
import BrokerSession.Proofs.Session.Tally
import BrokerSession.Proofs.Session.HangUp
import BrokerSession.Proofs.Schema.Truncation
import BrokerSession.Proofs.Schema.Offence
import BrokerSession.Proofs.Catalog.Conversion
import BrokerSession.Proofs.Catalog.Lookup
import BrokerSession.Proofs.Session.Serialization
import BrokerSession.Proofs.Catalog.Fallback
import BrokerSession.Proofs.Channel.Transmission
import BrokerSession.Proofs.Sasl.Mutual
import BrokerSession.Proofs.Text.Utf8
import BrokerSession.Proofs.Schema.Rows
import BrokerSession.Proofs.Catalog.Replicas
import BrokerSession.Proofs.Sasl.Plain
import BrokerSession.Proofs.Schema.MinWidth
import BrokerSession.Proofs.Catalog.Amplification
import BrokerSession.Proofs.Sasl.Escape
