import VehicleLink.Proofs.Frame.Acceptance
import VehicleLink.Proofs.Frame.Corruption
import VehicleLink.Proofs.Frame.Footprint
import VehicleLink.Proofs.Frame.Link
import VehicleLink.Proofs.Frame.NormalForm
import VehicleLink.Proofs.Message.Dispatch
import VehicleLink.Proofs.Message.Rolling
import VehicleLink.Proofs.Receivers
import VehicleLink.Proofs.Resynchronisation
import VehicleLink.Proofs.Sentence.Corruption
import VehicleLink.Proofs.Sentence.Truncation
import VehicleLink.Sentence.Position
import VehicleLink.Sentence.Timestamp
import VehicleLink.Text.Quoted
import VehicleLink.Proofs.Number.Filled
import VehicleLink.Proofs.Sentence.IntegerColumn
import VehicleLink.Proofs.Text.Boundary
import VehicleLink.Proofs.Number.Binary
import VehicleLink.Proofs.Number.Reread
import VehicleLink.Proofs.Sentence.FloatColumn
import VehicleLink.Proofs.Sentence.Timestamp
import VehicleLink.Proofs.Text.Normal
import VehicleLink.Proofs.Message.Alignment
import VehicleLink.Proofs.Frame.Representation
import VehicleLink.Proofs.Sentence.Representation
import VehicleLink.Proofs.Sentence.Position
