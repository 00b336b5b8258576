import Egress.Route
import Egress.Settings

/-!
# Resolutions

From a route to a source address, and on request to the interface that the address is assigned to.
-/

namespace Egress

namespace Host

/-- The interface of the host that the address is assigned to. A host that does not list its
interfaces has none. -/
def owner? (host : Host) (address : SourceAddress) : Option Interface :=
  Interface.owner? host.interfaces address.ip

end Host

structure Resolution where
  address : SourceAddress
  /-- The owner of the address, where it was looked for. -/
  interface : Option Interface
  deriving DecidableEq, Repr

namespace Resolution

variable {m : Type → Type} [Monad m] [MonadLiftT Run m]

/-- The source address of a route; its port and scope do not matter. The route may be that of a run,
or a question in an inquiry. -/
def source (d : Destination) (route : m Endpoint) : m SourceAddress := do
  Run.note (.probing d)
  let via ← route
  match SourceAddress.ofIp? via.ip with
  | none => Run.fail (.unspecified d.endpoint)
  | some address =>
    Run.note (.leaving address)
    return address

/-- The search for the owner of an address. It cannot fail, even where the host does. -/
def owner (host : Host) (address : SourceAddress) : Run (Option Interface) where
  result := .ok (host.owner? address)
  calls := [.interfaceEntries]
  notices := [.checking address host.interfaces.length,
    ((host.owner? address).map fun i => .owned address i.name).getD (.unowned address)]

/-- The resolution of an address that has to be assigned to an interface. -/
def verified (host : Host) (address : SourceAddress) : Run Resolution := do
  match ← owner host address with
  | none => Run.fail (.unassigned address.ip)
  | some i =>
    Run.note (.assigned address i.name)
    return { address, interface := some i }

def resolve (host : Host) (d : Destination) (route : m Endpoint) (verify : Bool) :
    m Resolution := do
  let address ← source d route
  if verify then verified host address else return { address, interface := none }

/-- The resolution that the settings ask of the host. -/
def ofSettings (host : Host) (s : Settings) : Run Resolution :=
  resolve host s.destination (host.route s.destination) s.verify

end Resolution
end Egress
