import Egress.Endpoint
import Egress.Text.Blank

/-!
# Destinations

The endpoint towards which the host is asked for a route. Nothing is ever sent to it, but the port
zero cannot be connected to. A destination is written as an endpoint and may be read from a bare
address, which stands for its port 80.
-/

namespace Egress

structure Destination where
  endpoint : Endpoint
  port_ne_zero : endpoint.port ≠ 0
  deriving DecidableEq, Repr

namespace Destination

/-- Why a text or an endpoint is no destination. -/
inductive Error
  | malformed (text : String)
  | zeroPort
  deriving DecidableEq, Repr

def Error.message : Error → String
  | .malformed text => "'" ++ text ++ "' is not an IP address or IP:port pair"
  | .zeroPort => "port 0 cannot be used as a probe target"

def ofEndpoint (e : Endpoint) : Except Error Destination :=
  if h : e.port = 0 then .error .zeroPort else .ok ⟨e, h⟩

def family (d : Destination) : Family := d.endpoint.family

/-- The endpoint that a socket is bound to before it is pointed at the destination. -/
def bindPoint (d : Destination) : Endpoint := .wildcard d.family

def text (d : Destination) : String := d.endpoint.text

/-! ## Defaults -/

/-- The port of a destination that is given as a bare address. -/
def standardPort : UInt16 := 80

def standardIp : Family → Ip
  | .v4 => .v4 ⟨8, 8, 8, 8⟩
  | .v6 => .v6 ⟨[0x2001, 0x4860, 0x4860, 0, 0, 0, 0, 0x8888], rfl⟩

/-- The destination of a family for which none is asked for. -/
def standard (family : Family) : Destination where
  endpoint := .ofIp standardPort (standardIp family)
  port_ne_zero := by cases family <;> decide

instance : Inhabited Destination := ⟨standard .v4⟩

/-! ## Reading -/

/-- The text without one pair of square brackets around it, if it has one. -/
def unbracket (cs : List Char) : List Char :=
  match cs with
  | '[' :: rest => if rest.getLast? = some ']' then rest.dropLast else cs
  | _ => cs

/-- A text of which the white space at both ends is gone. -/
def readTrimmed (cs : List Char) : Except Error Destination :=
  match Endpoint.read? cs with
  | some e => ofEndpoint e
  | none =>
    match Ip.read? (unbracket cs) with
    | some ip => ofEndpoint (.ofIp standardPort ip)
    | none => .error (.malformed (String.ofList cs))

def read (cs : List Char) : Except Error Destination := readTrimmed (Text.trim cs)

def ofText (text : String) : Except Error Destination := read text.toList

end Destination
end Egress
