import Egress.Ip.Printer

/-!
# Source addresses

The address that outbound traffic leaves from. It is a single address and not a wildcard, and an
IPv4 address is told as such also where the host answers in IPv6 form.
-/

namespace Egress

structure SourceAddress where
  ip : Ip
  canonical_ip : ip.canonical = ip
  not_isUnspecified : ip.isUnspecified = false
  deriving DecidableEq, Repr

namespace SourceAddress

/-- The wildcard of either family, and in either form, is no source address. -/
def ofIp? (ip : Ip) : Option SourceAddress :=
  if h : ip.canonical.isUnspecified = false then some ⟨ip.canonical, ip.canonical_canonical, h⟩
  else none

def family (a : SourceAddress) : Family := a.ip.family

def text (a : SourceAddress) : String := a.ip.text

theorem eq_of_ip_eq {a b : SourceAddress} (h : a.ip = b.ip) : a = b := by
  cases a
  cases b
  simpa using h

theorem ofIp?_eq_none_iff {ip : Ip} : ofIp? ip = none ↔ ip.canonical.isUnspecified = true := by
  simp [ofIp?]

theorem ip_of_ofIp? {ip : Ip} {a : SourceAddress} (h : ofIp? ip = some a) :
    a.ip = ip.canonical := by
  simp only [ofIp?] at h
  split at h
  · cases h
    rfl
  · contradiction

theorem ofIp?_ip (a : SourceAddress) : ofIp? a.ip = some a := by
  cases a with
  | mk ip hcanonical hspecified => simp [ofIp?, hcanonical, hspecified]

end SourceAddress
end Egress
