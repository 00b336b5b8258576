import Egress.Ip.Printer
import Egress.Ip.Reader

/-!
# Endpoints

An address with a port, as one end of a datagram socket. An IPv6 endpoint also has a scope and a
flow label; the label is never written.
-/

namespace Egress

inductive Endpoint
  | v4 (ip : Ipv4) (port : UInt16)
  | v6 (ip : Ipv6) (port : UInt16) (scope : UInt32) (flow : UInt32)
  deriving DecidableEq, Repr

namespace Endpoint

/-- Scope and flow label count for IPv6 only. -/
def ofParts (ip : Ip) (port : UInt16) (scope flow : UInt32) : Endpoint :=
  match ip with
  | .v4 ip => .v4 ip port
  | .v6 ip => .v6 ip port scope flow

def ofIp (port : UInt16) (ip : Ip) : Endpoint := ofParts ip port 0 0

def ip : Endpoint → Ip
  | .v4 ip _ => .v4 ip
  | .v6 ip _ _ _ => .v6 ip

def port : Endpoint → UInt16
  | .v4 _ port => port
  | .v6 _ port _ _ => port

theorem port_ofIp (port : UInt16) (ip : Ip) : (ofIp port ip).port = port := by
  cases ip <;> rfl

theorem ip_ofIp (port : UInt16) (address : Ip) : (ofIp port address).ip = address := by
  cases address <;> rfl

def scope? : Endpoint → Option UInt32
  | .v4 _ _ => none
  | .v6 _ _ scope _ => some scope

def family (e : Endpoint) : Family := e.ip.family

/-- The endpoint as its text tells it. -/
def withoutFlow : Endpoint → Endpoint
  | .v4 ip port => .v4 ip port
  | .v6 ip port scope _ => .v6 ip port scope 0

/-- Every address of the family, at a port that the host is left to choose. -/
def wildcard (family : Family) : Endpoint :=
  .ofIp 0 (.unspecified family)

instance : Inhabited Endpoint := ⟨wildcard .v4⟩

/-! ## Text -/

/-- The scope behind its sign; the scope zero goes without saying. -/
def scopeChars (scope : UInt32) : List Char :=
  if scope = 0 then [] else '%' :: Nat.toDigits 10 scope.toNat

def portChars (port : UInt16) : List Char :=
  ':' :: Nat.toDigits 10 port.toNat

def chars : Endpoint → List Char
  | .v4 ip port => ip.chars ++ portChars port
  | .v6 ip port scope _ => '[' :: ip.chars ++ scopeChars scope ++ ']' :: portChars port

def text (e : Endpoint) : String := String.ofList e.chars

theorem toList_text (e : Endpoint) : e.text.toList = e.chars := String.toList_ofList

theorem chars_withoutFlow (e : Endpoint) : e.withoutFlow.chars = e.chars := by
  cases e <;> rfl

/-! ## Reading -/

open Text

/-- A port is at least one decimal digit, with leading zeros or without. -/
def readPort? (cs : List Char) : Option UInt16 :=
  (readDigits? 10 cs).bind fun n => if n < UInt16.size then some (UInt16.ofNat n) else none

def readScope? (cs : List Char) : Option UInt32 :=
  (readDigits? 10 cs).bind fun n => if n < UInt32.size then some (UInt32.ofNat n) else none

def readV4? (cs : List Char) : Option Endpoint :=
  match cs.splitOn ':' with
  | [ip, port] => do return .v4 (← Ipv4.read? ip) (← readPort? port)
  | _ => none

/-- What stands between the brackets: an IPv6 address, and a scope if there is a sign for one. -/
def readScoped? (cs : List Char) : Option (Ipv6 × UInt32) :=
  match cs.splitOn '%' with
  | [ip] => do return (← Ipv6.read? ip, 0)
  | [ip, scope] => do return (← Ipv6.read? ip, ← readScope? scope)
  | _ => none

def readV6? (cs : List Char) : Option Endpoint :=
  match cs with
  | '[' :: rest =>
    match rest.splitOn ']' with
    | [inner, ':' :: port] => do
      let (ip, scope) ← readScoped? inner
      return .v6 ip (← readPort? port) scope 0
    | _ => none
  | _ => none

def read? (cs : List Char) : Option Endpoint := (readV4? cs).or (readV6? cs)

def ofText? (text : String) : Option Endpoint := read? text.toList

end Endpoint
end Egress
