import Egress.Ip.Mask
import Egress.Ip.Printer
import Egress.Ip.Reader

/-!
# Addresses with their network

An address and the length of its network mask, which is never longer than the address.
-/

namespace Egress

open Text

structure Net where
  ip : Ip
  length : Nat
  length_le : length ≤ Ip.width ip.family
  deriving DecidableEq, Repr

namespace Net

/-- Why a text is no address with a network. -/
inductive Error
  | address
  | length (text : String)
  deriving DecidableEq, Repr

def ofLength? (ip : Ip) (length : Nat) : Option Net :=
  if h : length ≤ Ip.width ip.family then some ⟨ip, length, h⟩ else none

/-- The address as a network of its own. -/
def host (ip : Ip) : Net := ⟨ip, Ip.width ip.family, Nat.le_refl _⟩

def text (net : Net) : String := net.ip.text ++ "/" ++ toString net.length

/-- An address, and behind a stroke the length of its mask if it is not a network of its own. -/
def ofText (text : String) : Except Error Net :=
  match text.toList.splitOn '/' with
  | [ip] => ((Ip.read? ip).map host).elim (.error .address) .ok
  | [ip, length] =>
    match Ip.read? ip with
    | none => .error .address
    | some ip => ((readDigits? 10 length).bind (ofLength? ip)).elim (.error (.length text)) .ok
  | _ => .error .address

end Net

end Egress
