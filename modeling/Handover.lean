import Handover.Main
import Handover.Proofs.StoredRecord
import Handover.Session.Run
import Handover.Proofs.Call
import Handover.Proofs.Moves
import Handover.Proofs.Atomicity
import Handover.Proofs.Course
import Handover.Proofs.Succession
import Handover.Proofs.Lifecycle
import Handover.Proofs.FlatRole
import Handover.Proofs.Authority
import Handover.Proofs.Damage
import Handover.Proofs.StandingWrite
import Handover.Proofs.Isolation
import Handover.Proofs.MessageLanguage
import Handover.Proofs.Refinement
import Handover.Proofs.CanonicalStorage
import Handover.Proofs.StateAlone
import Handover.Proofs.Spelling
import Handover.Proofs.Decoding
import Handover.Proofs.Race
import Handover.Proofs.ReachedRecord
import Handover.Proofs.MessageDump
import Handover.Proofs.FailingStore
import Handover.Proofs.AuditTrail
import Handover.Proofs.Attribution
import Handover.Proofs.StageOrder
import Handover.Proofs.ProductionLine
import Handover.Proofs.CorrelationScope
import Handover.Proofs.Overreach
import Handover.Proofs.CanonicalWord
import Handover.Proofs.GuardAgreement
import Handover.Proofs.SourceOrder
import Handover.Proofs.Environment
import Handover.Proofs.OutgoingText
import Handover.Proofs.HostAttributes
import Handover.Proofs.FlatForm
import Handover.Proofs.ViolationReport
import Handover.Proofs.SharedStore
