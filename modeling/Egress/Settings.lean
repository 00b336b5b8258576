import Egress.Destination

/-!
# Settings

What to resolve: the destination whose route counts, and whether the source address has to be
verified.
-/

namespace Egress

structure Settings where
  destination : Destination := default
  verify : Bool := false
  deriving DecidableEq, Repr, Inhabited

end Egress
