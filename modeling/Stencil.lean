import Stencil.Main
import Stencil.Proofs.Body.Flattening
import Stencil.Proofs.Body.Label
import Stencil.Proofs.Body.Line
import Stencil.Proofs.Body.Listing
import Stencil.Proofs.Body.Origin
import Stencil.Proofs.Body.Stretch
import Stencil.Proofs.Calendar.Format
import Stencil.Proofs.Command.Check
import Stencil.Proofs.Command.Render
import Stencil.Proofs.Invoice.RoundTrip
import Stencil.Proofs.Money.Whole
import Stencil.Proofs.Render.Mention
import Stencil.Proofs.Render.Segment
import Stencil.Proofs.Render.Trace
import Stencil.Proofs.Template.Caching
import Stencil.Proofs.Template.History
import Stencil.Proofs.Template.Recall
import Stencil.Proofs.Template.SeedForm
import Stencil.Proofs.Scope.Ranking
import Stencil.Proofs.Scope.Reach
import Stencil.Proofs.Scope.Repair
import Stencil.Proofs.Text.Entities
import Stencil.Proofs.Value.Keys
import Stencil.Proofs.Value.Listed
