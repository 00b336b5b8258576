import Egress.Main
import Egress.Proofs.Calls
import Egress.Proofs.Consistency
import Egress.Proofs.InterfaceNames
import Egress.Proofs.Listings
import Egress.Proofs.Messages
import Egress.Proofs.Reorderings
import Egress.Proofs.Searches
import Egress.Proofs.Truthfulness
