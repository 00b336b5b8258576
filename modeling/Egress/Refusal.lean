import Egress.Destination

/-!
# Refusals

Why something that was given as a text, or as the parts of an endpoint, is not what was asked for.
-/

namespace Egress

inductive Refusal
  | ip
  | endpoint
  | destination (error : Destination.Error)
  deriving DecidableEq, Repr

namespace Refusal

def message : Refusal → String
  | .ip => "invalid IP address syntax"
  | .endpoint => "invalid socket address syntax"
  | .destination error => error.message

end Refusal

namespace Ip

def ofText (text : String) : Except Refusal Ip :=
  (ofText? text).elim (.error .ip) .ok

end Ip

namespace Endpoint

def ofText (text : String) : Except Refusal Endpoint :=
  (ofText? text).elim (.error .endpoint) .ok

end Endpoint

end Egress
