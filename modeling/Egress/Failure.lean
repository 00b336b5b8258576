import Egress.Endpoint
import Egress.Errno

/-!
# Failures

Every way in which the host can fail to tell a source address.
-/

namespace Egress

/-- What lies behind the failure of a call. -/
inductive Cause
  | os (errno : Errno)
  | other (text : String)
  deriving DecidableEq, Repr

namespace Cause

def text : Cause → String
  | .os errno => errno.text
  | .other text => text

def errno? : Cause → Option Errno
  | .os errno => some errno
  | .other _ => none

end Cause

inductive Failure
  /-- No socket could be opened and bound. -/
  | bind (bindPoint : Endpoint) (cause : Cause)
  /-- The host has no route. -/
  | connect (remote : Endpoint) (cause : Cause)
  | localEndpoint (cause : Cause)
  /-- The socket was connected, but no address was selected for it. -/
  | unspecified (remote : Endpoint)
  /-- No interface that is up has the address. -/
  | unassigned (ip : Ip)
  deriving DecidableEq, Repr

namespace Failure

def message : Failure → String
  | .bind bindPoint _ =>
    "network unavailable: cannot open a UDP socket on " ++ bindPoint.text
  | .connect remote _ => "network unavailable: no route towards " ++ remote.text
  | .localEndpoint _ => "network unavailable: cannot read the local socket address"
  | .unspecified remote =>
    "network unavailable: no local address selected towards " ++ remote.text
  | .unassigned ip =>
    "network unavailable: " ++ ip.text ++ " is not assigned to any local interface"

def cause? : Failure → Option Cause
  | .bind _ cause => some cause
  | .connect _ cause => some cause
  | .localEndpoint cause => some cause
  | .unspecified _ => none
  | .unassigned _ => none

end Failure
end Egress
