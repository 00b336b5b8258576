import Egress.Proofs.SourceAddresses
import Egress.Proofs.Verification

/-!
# Listings — verification of addresses that have two forms

An IPv4 address in IPv6 form is taken as IPv4 before its owner is looked for, but interfaces are
listed with their addresses as they are. Main statements: an address that an interface lists in IPv6
form alone does not verify, though it is the very address that the host reports; and that is the
only way in which a listed address can be refused.
-/

namespace Egress

namespace Host

/-- The host answers every call for a route, and its answer to the last has this address. -/
structure Reports (host : Host) (d : Destination) (ip : Ip) : Prop where
  socket : host.socket = .ok ()
  bind : host.bind = .ok ()
  connect : host.connect = .ok ()
  named : ∃ name, host.socketName = .ok name ∧ (name d.family).ip = ip

/-- An IPv4 address in IPv6 form, towards which the host takes an IPv6 socket. -/
def mappedDestination : Destination where
  endpoint := .v6 (.ofIpv4 ⟨8, 8, 8, 8⟩) 80 0 0
  port_ne_zero := by decide

/-- A host that reports an IPv4 address in IPv6 form, and lists it so. -/
def mappedListing : Host where
  socketName := .ok fun _ => .v6 (.ofIpv4 ⟨10, 0, 0, 5⟩) 40000 0 0
  interfaceEntries := .ok
    [{ name := "eth0"
       flags := 1
       attachment := .address (.v6 (.ofIpv4 ⟨10, 0, 0, 5⟩)) none }]

theorem mappedListing_reports (d : Destination) :
    mappedListing.Reports d (.v6 (.ofIpv4 ⟨10, 0, 0, 5⟩)) :=
  ⟨rfl, rfl, rfl, _, rfl, rfl⟩

theorem mappedListing_assigns : mappedListing.Assigns (.v6 (.ofIpv4 ⟨10, 0, 0, 5⟩)) :=
  ⟨_, List.mem_singleton_self _, rfl, _, List.mem_singleton_self _, rfl⟩

end Host

namespace Resolution

theorem result_source_of_reports {host : Host} {d : Destination} {ip : Ip}
    {address : SourceAddress} (h : host.Reports d ip)
    (haddress : SourceAddress.ofIp? ip = some address) :
    (source d (host.route d)).result = .ok address := by
  obtain ⟨name, hname, hip⟩ := h.named
  refine result_source_eq_ok_iff.2 ⟨name d.family, ?_, ?_⟩
  · exact Host.result_route_eq_ok_iff.2 ⟨h.socket, h.bind, h.connect, name, hname, rfl⟩
  · rw [hip, SourceAddress.ip_of_ofIp? haddress]

/-- Of the two ways in which verification can end, the listing decides. -/
theorem result_resolve_verified_iff (host : Host) {d : Destination} {route : Run Endpoint}
    {address : SourceAddress} (h : (source d route).result = .ok address) :
    ((∃ r, (resolve host d route true).result = .ok r) ↔ host.Assigns address.ip) ∧
      ((resolve host d route true).result = .error (.unassigned address.ip) ↔
        ¬host.Assigns address.ip) := by
  rcases result_resolve_verified host h with ⟨i, hi, hup, hnet, hok⟩ | ⟨hnone, herror⟩
  · have hassigns : host.Assigns address.ip := ⟨i, hi, hup, hnet⟩
    simp [hok, hassigns]
  · simp [herror, hnone]

/-- Verification accepts an address exactly if its canonical form is listed by an interface that is
up, and else refuses it by that form. An address of one form is so accepted if it is listed at all,
and one in IPv6 form of IPv4 only if it is listed as IPv4. -/
theorem verified_iff_canonical_listed {host : Host} {d : Destination} {ip : Ip}
    {address : SourceAddress} (h : host.Reports d ip)
    (haddress : SourceAddress.ofIp? ip = some address) :
    let checked := (resolve host d (host.route d) true).result
    ((∃ r, checked = .ok r) ↔ host.Assigns ip.canonical) ∧
    (checked = .error (.unassigned ip.canonical) ↔ ¬host.Assigns ip.canonical) ∧
    (host.Assigns ip → (∀ small, ip ≠ .v6 (.ofIpv4 small)) → ∃ r, checked = .ok r) ∧
    ∀ small, ip = .v6 (.ofIpv4 small) → ((∃ r, checked = .ok r) ↔ host.Assigns (.v4 small)) := by
  intro checked
  obtain ⟨haccepted, hrefused⟩ :=
    result_resolve_verified_iff host (result_source_of_reports h haddress)
  rw [SourceAddress.ip_of_ofIp? haddress] at haccepted hrefused
  refine ⟨haccepted, hrefused, fun hassigns hother => ?_, ?_⟩
  · -- Only the IPv6 form of an IPv4 address differs from its canonical form.
    rcases ip.canonical_cases with ⟨hself, -⟩ | ⟨small, hmapped, -⟩
    · exact haccepted.2 (hself.symm ▸ hassigns)
    · exact absurd hmapped (hother small)
  · rintro small rfl
    rw [Ip.canonical_ofIpv4] at haccepted
    exact haccepted

/-- The host reports and lists the same address, and it is refused all the same. -/
theorem verified_iff_canonical_listed_of_mapped :
    let ip : Ip := .v6 (.ofIpv4 ⟨10, 0, 0, 5⟩)
    let host := Host.mappedListing
    let d := Host.mappedDestination
    host.Reports d ip ∧
      SourceAddress.ofIp? ip = some ⟨.v4 ⟨10, 0, 0, 5⟩, rfl, rfl⟩ ∧
      ¬host.Assigns (.v4 ⟨10, 0, 0, 5⟩) ∧
      (resolve host d (host.route d) true).result = .error (.unassigned (.v4 ⟨10, 0, 0, 5⟩)) := by
  intro ip host d
  have haddress : SourceAddress.ofIp? ip = some ⟨.v4 ⟨10, 0, 0, 5⟩, rfl, rfl⟩ := rfl
  have hresult : (resolve host d (host.route d) true).result =
      .error (.unassigned ip.canonical) := rfl
  have hverified := verified_iff_canonical_listed (Host.mappedListing_reports d) haddress
  exact ⟨Host.mappedListing_reports d, haddress, hverified.2.1.1 hresult, hresult⟩

/-- Not every address that the host reports, and that an interface which is up carries in just that
form, verifies. -/
theorem not_every_listed_address_verifies :
    ¬∀ (host : Host) (d : Destination) (ip : Ip) (address : SourceAddress),
      host.Reports d ip → SourceAddress.ofIp? ip = some address →
      (∃ i ∈ host.interfaces, i.isUp = true ∧ i.carries ip = true) →
      ∃ r, (resolve host d (host.route d) true).result = .ok r := by
  intro hall
  let host := Host.mappedListing
  let d := Host.mappedDestination
  obtain ⟨i, hi, hup, hnet⟩ := Host.mappedListing_assigns
  obtain ⟨r, hr⟩ := hall host d _ ⟨.v4 ⟨10, 0, 0, 5⟩, rfl, rfl⟩
    (Host.mappedListing_reports d) rfl ⟨i, hi, hup, Interface.carries_iff.2 hnet⟩
  have hresult : (resolve host d (host.route d) true).result =
      .error (.unassigned (.v4 ⟨10, 0, 0, 5⟩)) := rfl
  rw [hresult] at hr
  contradiction

end Resolution
end Egress
