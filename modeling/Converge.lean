import Converge.Main
import Converge.Transport.Memory
import Converge.Proofs.NormalForm
import Converge.Proofs.Resolution
import Converge.Proofs.Planning
import Converge.Proofs.BuiltIn
import Converge.Proofs.Convergence
import Converge.Proofs.History
import Converge.Proofs.Reconciliation
import Converge.Proofs.Conversations
import Converge.Proofs.Incomplete
import Converge.Proofs.Accounts
import Converge.Proofs.Sites
import Converge.Proofs.Agreement
import Converge.Proofs.Orphans
import Converge.Proofs.DurationText
import Converge.Proofs.Wire
import Converge.Proofs.TransitKeys
import Converge.Proofs.Dependence
import Converge.Proofs.Mounts
import Converge.Proofs.JsonText
import Converge.Proofs.ReadBack
import Converge.Proofs.Applying
import Converge.Proofs.Idempotence
import Converge.Proofs.Dialogues
import Converge.Proofs.Moves
import Converge.Proofs.MountDependence
import Converge.Proofs.Destroying
import Converge.Proofs.Retrying
import Converge.Proofs.Computed
import Converge.Proofs.KeyIds
import Converge.Proofs.Updates
import Converge.Proofs.WriteProtocol
import Converge.Proofs.Declarations
import Converge.Proofs.Aliases
import Converge.Proofs.DurationEcho
import Converge.Proofs.DurationSpans
import Converge.Proofs.Decoders
import Converge.Proofs.UrlPaths
import Converge.Proofs.MountUrls
import Converge.Proofs.Absence
import Converge.Proofs.ByteOrder
import Converge.Proofs.CanonicalForms
import Converge.Proofs.CanonicalState
