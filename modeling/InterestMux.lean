import InterestMux.Interest.Stored
import InterestMux.Notification
import InterestMux.Settings.Load
import InterestMux.Rehearsal.TrackerRun
import InterestMux.Rehearsal.ConnectionRun
import InterestMux.Rehearsal.HandlerRun
import InterestMux.Proofs.Loop.Grammar
import InterestMux.Proofs.Loop.DeadSession
import InterestMux.Proofs.Connection.Finality
import InterestMux.Proofs.Handler.Agreement
import InterestMux.Proofs.Connection.Handover
import InterestMux.Proofs.Handler.Delivery
import InterestMux.Proofs.Connection.Announcements
import InterestMux.Proofs.Ring.Receipts
import InterestMux.Proofs.Tracker.Refinement
import InterestMux.Proofs.Evictor.Course
import InterestMux.Proofs.Evictor.Rounds
import InterestMux.Proofs.Handler.Engine
import InterestMux.Proofs.Handler.Eviction
import InterestMux.Proofs.Handler.Exhaustion
import InterestMux.Proofs.Interest.Normal
import InterestMux.Proofs.Tracker.Observers
import InterestMux.Proofs.Connection.Conclusion
import InterestMux.Proofs.Handler.Capacity
import InterestMux.Proofs.Handler.Shutdown
import InterestMux.Proofs.Connection.Shown
import InterestMux.Proofs.Interest.Canonical
import InterestMux.Proofs.Connection.Closure
import InterestMux.Proofs.Connection.Breakdown
import InterestMux.Proofs.Handler.Breakdown
import InterestMux.Proofs.Loop.Attempts
import InterestMux.Proofs.Handler.RetryWait
import InterestMux.Proofs.Handler.Registrations
import InterestMux.Proofs.Handler.Dropping
import InterestMux.Proofs.Handler.Metering
import InterestMux.Proofs.Interest.Stored
import InterestMux.Proofs.Settings.Overlay
import InterestMux.Proofs.Interest.TotalOrder
import InterestMux.Proofs.Source.Text
import InterestMux.Proofs.Handler.EvictionLines
