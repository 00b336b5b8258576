import Egress.Failure
import Egress.Interface.Table

/-!
# The host

What the operating system answers to each call that a run can make. A run only reads the host, so
that its outcome depends on these answers and on nothing else.
-/

namespace Egress

/-! ## Calls -/

inductive Call
  | socket (family : Family)
  | bind (bindPoint : Endpoint)
  | connect (remote : Endpoint)
  | socketName
  | interfaceEntries
  deriving DecidableEq, Repr

namespace Call

def text : Call → String
  | .socket .v4 => "socket inet dgram"
  | .socket .v6 => "socket inet6 dgram"
  | .bind bindPoint => "bind " ++ bindPoint.text
  | .connect remote => "connect " ++ remote.text
  | .socketName => "getsockname"
  | .interfaceEntries => "getifaddrs"

end Call

/-! ## Answers -/

structure Host where
  socket : Except Errno Unit := .ok ()
  bind : Except Errno Unit := .ok ()
  connect : Except Errno Unit := .ok ()
  /-- The local endpoint of a connected socket of each family. It need not be of that family. -/
  socketName : Except Errno (Family → Endpoint)
  interfaceEntries : Except Errno (List InterfaceEntry) := .ok []

namespace Host

/-- The interfaces of a host that does not list any are none. -/
def interfaces (host : Host) : List Interface :=
  match host.interfaceEntries with
  | .ok es => Interface.table es
  | .error _ => []

end Host
end Egress
