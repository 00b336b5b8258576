import Egress.Destination
import Egress.Log.Event
import Egress.SourceAddress

/-!
# Notices

What a run has to report on its way, and the log event of each notice.
-/

namespace Egress

inductive Notice
  | probing (destination : Destination)
  | bound (bindPoint : Endpoint)
  | routed (destination : Destination) (via : Endpoint)
  | leaving (address : SourceAddress)
  | checking (address : SourceAddress) (interfaces : Nat)
  /-- The search through the interfaces came to its end, with an owner or without. -/
  | owned (address : SourceAddress) (name : String)
  | unowned (address : SourceAddress)
  /-- The source address of a resolution is verified. -/
  | assigned (address : SourceAddress) (name : String)
  | verified (name : String)
  deriving DecidableEq, Repr

namespace Notice

/-! ## Sources -/

def resolverSource : String := "routeip_core::resolver"

def routeSource : String := "routeip_core::network::route"

def interfaceSource : String := "routeip_common::network::interface"

def programSource : String := "routeip"

/-! ## Events -/

def level : Notice → Level
  | .probing _ => .debug
  | .bound _ => .trace
  | .routed _ _ => .debug
  | .leaving _ => .info
  | .checking _ _ => .debug
  | .owned _ _ => .debug
  | .unowned _ => .warn
  | .assigned _ _ => .info
  | .verified _ => .debug

def source : Notice → String
  | .probing _ => resolverSource
  | .bound _ => routeSource
  | .routed _ _ => routeSource
  | .leaving _ => resolverSource
  | .checking _ _ => interfaceSource
  | .owned _ _ => interfaceSource
  | .unowned _ => interfaceSource
  | .assigned _ _ => resolverSource
  | .verified _ => programSource

def message : Notice → String
  | .probing destination => "Probing route towards " ++ destination.text
  | .bound bindPoint => "Bound probe socket on " ++ bindPoint.text
  | .routed destination via => "Kernel routed " ++ destination.text ++ " via " ++ via.text
  | .leaving address => "Outbound traffic leaves from " ++ address.text
  | .checking address interfaces =>
    "Checking " ++ address.text ++ " against " ++ toString interfaces ++ " interface(s)"
  | .owned address name => address.text ++ " is assigned to " ++ name
  | .unowned address => address.text ++ " is not assigned to any interface that is up"
  | .assigned address name => address.text ++ " is assigned to " ++ name
  | .verified name => "Verified against interface " ++ name

def event (n : Notice) : Event := ⟨n.level, n.source, n.message⟩

end Notice
end Egress
