import Waymark.Main
import Waymark.Proofs.Anchor.Removal
import Waymark.Proofs.Server.Announcing
import Waymark.Proofs.Server.Answering
import Waymark.Proofs.Server.Redisplay
import Waymark.Proofs.Server.Refusals
import Waymark.Proofs.Server.Rendering
import Waymark.Proofs.Server.Retention
import Waymark.Proofs.Server.Unharmed
import Waymark.Proofs.Session.Correlation
import Waymark.Proofs.Session.Selection
import Waymark.Proofs.Session.Showing
import Waymark.Proofs.Trace.Highlights
import Waymark.Proofs.Trace.Descent
import Waymark.Proofs.Server.Neighbours
import Waymark.Proofs.Session.Remarking
import Waymark.Proofs.Text.Resolving
import Waymark.Proofs.Anchor.Drifting
import Waymark.Proofs.Session.Readding
import Waymark.Proofs.Exchange.Stream
import Waymark.Proofs.Trace.Roaming
import Waymark.Proofs.Trace.Surroundings
import Waymark.Proofs.Trace.Bounds
import Waymark.Proofs.Trace.Resuming
import Waymark.Proofs.Anchor.Batches
import Waymark.Proofs.Marker.Addressing
import Waymark.Proofs.Session.Accepting
import Waymark.Proofs.Heap.Alternation
import Waymark.Proofs.Server.Layering
import Waymark.Proofs.Anchor.Stripping
import Waymark.Proofs.Exchange.Restoring
import Waymark.Proofs.Marker.Precedence
import Waymark.Proofs.Text.Offsets
