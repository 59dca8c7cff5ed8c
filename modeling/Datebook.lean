import Datebook.Http.Target
import Datebook.Main
import Datebook.Rehearsal
import Datebook.Store.Kind
import Datebook.Proofs.IndexedAnswers
import Datebook.Proofs.Backends
import Datebook.Proofs.ConflictFree
import Datebook.Proofs.Linearization
import Datebook.Proofs.ClampedBounds
import Datebook.Proofs.StoredRules
import Datebook.Proofs.NotifiedFlag
import Datebook.Proofs.SoleDelivery
import Datebook.Proofs.RequestReplay
import Datebook.Proofs.WireRoundTrip
import Datebook.Proofs.SenderShutdown
import Datebook.Proofs.TimedOutWrites
import Datebook.Proofs.WriteOutcomes
import Datebook.Proofs.UpdatedEvents
import Datebook.Proofs.CalendarPeriods
import Datebook.Proofs.PeriodListings
import Datebook.Proofs.PeriodPartition
import Datebook.Proofs.RetainedEvents
import Datebook.Proofs.SchedulerRun
import Datebook.Proofs.ReleasedResources
import Datebook.Proofs.QueueHistory
import Datebook.Proofs.EndpointQueues
import Datebook.Proofs.FirstViolation
