import PageCoverage.Main
import PageCoverage.Operation
import PageCoverage.Session.StandIn
import PageCoverage.Proofs.Range.Nesting
import PageCoverage.Proofs.Tracking.Teardown
import PageCoverage.Proofs.Range.Order
import PageCoverage.Proofs.Range.Pointwise
import PageCoverage.Proofs.Session.Correlation
import PageCoverage.Proofs.Cache.Latest
import PageCoverage.Proofs.Router.Delivery
import PageCoverage.Proofs.Session.Lawful
import PageCoverage.Proofs.Tracking.Collected
import PageCoverage.Proofs.Session.Shutdown
import PageCoverage.Proofs.Session.Legible
import PageCoverage.Proofs.Tracking.Returned
import PageCoverage.Proofs.Range.Canonical
import PageCoverage.Proofs.Router.History
import PageCoverage.Proofs.Page.Listeners
import PageCoverage.Proofs.Page.Independence
import PageCoverage.Proofs.Range.Overlap
import PageCoverage.Proofs.Range.Empty
import PageCoverage.Proofs.Tracking.Newest
import PageCoverage.Proofs.Range.Replay
import PageCoverage.Proofs.Schema.RoundTrip
import PageCoverage.Proofs.Collection.Concluded
import PageCoverage.Proofs.Collection.Result
import PageCoverage.Proofs.Tracking.Admission
import PageCoverage.Proofs.Range.Rearranged
import PageCoverage.Proofs.Range.Combined
import PageCoverage.Proofs.Tracking.Payload
import PageCoverage.Proofs.Resource.CoveredText
import PageCoverage.Proofs.Resource.Share
import PageCoverage.Proofs.Cache.Ordered
import PageCoverage.Proofs.Schema.Unknown
import PageCoverage.Proofs.Session.Gates
import PageCoverage.Proofs.Cache.Stamps
