import Egress.Interface.Mac
import Egress.Interface.Net

/-!
# Network interfaces

An interface has addresses, each with the length of its network mask. `owner?` finds the interface
an address is assigned to: the first that is up and carries exactly that address.
-/

namespace Egress

structure Interface where
  name : String
  index : Nat := 0
  mac : Option Mac := none
  flags : UInt32
  nets : List Net
  deriving DecidableEq, Repr

namespace Interface

def upFlag : UInt32 := 1

def loopbackFlag : UInt32 := 8

def isUp (i : Interface) : Bool := i.flags &&& upFlag ≠ 0

def isLoopback (i : Interface) : Bool := i.flags &&& loopbackFlag ≠ 0

/-- An address counts if it is the interface's own, not if it lies in one of its networks. -/
def carries (i : Interface) (ip : Ip) : Bool := i.nets.any fun net => net.ip = ip

def owns (i : Interface) (ip : Ip) : Bool := i.isUp && i.carries ip

/-- The first interface that is up and carries the address. -/
def owner? (is : List Interface) (ip : Ip) : Option Interface :=
  is.find? fun i => i.owns ip

/-- Position of the owner. -/
def ownerIndex? (is : List Interface) (ip : Ip) : Option Nat :=
  is.findIdx? fun i => i.owns ip

/-- Positions of all interfaces that carry the address, whether up or not. -/
def carriers (is : List Interface) (ip : Ip) : List Nat :=
  (is.zipIdx.filter fun (i, _) => i.carries ip).map Prod.snd

theorem carries_iff {i : Interface} {ip : Ip} :
    i.carries ip = true ↔ ∃ net ∈ i.nets, net.ip = ip := by
  simp [carries]

theorem owns_of_owner? {is : List Interface} {ip : Ip} {i : Interface}
    (h : owner? is ip = some i) : i ∈ is ∧ i.owns ip = true := by
  have howns := List.find?_some h
  exact ⟨List.mem_of_find?_eq_some h, howns⟩

theorem mem_carriers_iff {is : List Interface} {ip : Ip} {k : Nat} :
    k ∈ carriers is ip ↔ ∃ i, is[k]? = some i ∧ i.carries ip = true := by
  simp [carriers, List.mk_mem_zipIdx_iff_getElem?]

theorem owner?_eq_getElem? (is : List Interface) (ip : Ip) :
    owner? is ip = (ownerIndex? is ip).bind (is[·]?) := by
  induction is with
  | nil => rfl
  | cons i is ih =>
    by_cases h : i.owns ip = true
    · simp [owner?, ownerIndex?, List.findIdx?_cons, h]
    · simp only [owner?, ownerIndex?] at ih
      rw [owner?, ownerIndex?, List.find?_cons_of_neg (by exact h), List.findIdx?_cons, if_neg h,
        ih, Option.bind_map]
      rfl

end Interface
end Egress
