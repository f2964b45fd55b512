import ApiProto.Main
import ApiProto.Proofs.Additions
import ApiProto.Proofs.Building
import ApiProto.Proofs.Deduplication
import ApiProto.Proofs.DictionaryOrder
import ApiProto.Proofs.Independence
import ApiProto.Proofs.Naming.Calls
import ApiProto.Proofs.Naming.Composition
import ApiProto.Proofs.Naming.Lossless
import ApiProto.Proofs.Naming.NormalForms
import ApiProto.Proofs.Naming.PlainNames
import ApiProto.Proofs.Naming.References
import ApiProto.Proofs.Naming.WordForms
import ApiProto.Proofs.Nesting
import ApiProto.Proofs.Paths
import ApiProto.Proofs.Places.LineEnds
import ApiProto.Proofs.Places.Positions
import ApiProto.Proofs.Profiles
import ApiProto.Proofs.Recovery.Definitions
import ApiProto.Proofs.RoundTrip
import ApiProto.Proofs.Runs.AllOrNothing
import ApiProto.Proofs.Runs.Packages
import ApiProto.Proofs.Runs.ProfileChoice
import ApiProto.Proofs.StatusKeys
import ApiProto.Proofs.TypeDecision
import ApiProto.Proofs.Wrappers
