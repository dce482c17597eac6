import TransitionDiagram.Main
import TransitionDiagram.Console.Recorded
import TransitionDiagram.Surface.Unreliable
import TransitionDiagram.Proofs.Paths
import TransitionDiagram.Proofs.Runs
import TransitionDiagram.Proofs.FaultFree
import TransitionDiagram.Proofs.Portrait
import TransitionDiagram.Proofs.Following
import TransitionDiagram.Proofs.RoundTrip
import TransitionDiagram.Proofs.Issued
import TransitionDiagram.Proofs.Identity
import TransitionDiagram.Proofs.Refusals
import TransitionDiagram.Proofs.Strays
import TransitionDiagram.Proofs.Tidy
import TransitionDiagram.Proofs.Redraws
import TransitionDiagram.Proofs.Bookkeeping
import TransitionDiagram.Proofs.Requests
import TransitionDiagram.Proofs.Watching
import TransitionDiagram.Proofs.Canvases
import TransitionDiagram.Proofs.Exact
import TransitionDiagram.Proofs.Labels
import TransitionDiagram.Proofs.Legible
import TransitionDiagram.Proofs.Linewise
import TransitionDiagram.Proofs.Editing
import TransitionDiagram.Proofs.Matching
import TransitionDiagram.Proofs.Frames
import TransitionDiagram.Proofs.Retrying
import TransitionDiagram.Proofs.Columns
import TransitionDiagram.Proofs.Layers
import TransitionDiagram.Proofs.Stability
import TransitionDiagram.Proofs.Tours
import TransitionDiagram.Proofs.Clipping
import TransitionDiagram.Proofs.Accepted
import TransitionDiagram.Proofs.WidePairs
import TransitionDiagram.Proofs.Measured
import TransitionDiagram.Proofs.LineCells
import TransitionDiagram.Proofs.Listing
