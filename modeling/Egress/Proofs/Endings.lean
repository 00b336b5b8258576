import Egress.Resolution

/-!
# Endings — how routes and resolutions end

A run takes its steps in a fixed order and can only stop early. For routes, source addresses and
resolutions all endings are listed here, each with the answers of the host that lead to it, and with
the questions, the calls and the notices up to it. Whatever holds of every run is shown by going
through the list. An inquiry asks for one route, so it ends as a run along that route does.
-/

namespace Egress

/-! ## Routes -/

namespace Host

/-- The endings of a route: at the first call that is refused, or with the answer to the last. -/
inductive Routed (host : Host) (d : Destination) : Run Endpoint → Prop
  | noSocket {errno : Errno} :
      host.socket = .error errno →
      Routed host d
        { result := .error (.bind d.bindPoint (.os errno))
          calls := [.socket d.family] }
  | unbound {errno : Errno} :
      host.socket = .ok () → host.bind = .error errno →
      Routed host d
        { result := .error (.bind d.bindPoint (.os errno))
          calls := [.socket d.family, .bind d.bindPoint] }
  | unconnected {errno : Errno} :
      host.socket = .ok () → host.bind = .ok () → host.connect = .error errno →
      Routed host d
        { result := .error (.connect d.endpoint (.os errno))
          calls := [.socket d.family, .bind d.bindPoint, .connect d.endpoint]
          notices := [.bound d.bindPoint] }
  | unnamed {errno : Errno} :
      host.socket = .ok () → host.bind = .ok () → host.connect = .ok () →
      host.socketName = .error errno →
      Routed host d
        { result := .error (.localEndpoint (.os errno))
          calls := [.socket d.family, .bind d.bindPoint, .connect d.endpoint, .socketName]
          notices := [.bound d.bindPoint] }
  | answered {name : Family → Endpoint} :
      host.socket = .ok () → host.bind = .ok () → host.connect = .ok () →
      host.socketName = .ok name →
      Routed host d
        { result := .ok (name d.family)
          calls := [.socket d.family, .bind d.bindPoint, .connect d.endpoint, .socketName]
          notices := [.bound d.bindPoint, .routed d (name d.family)] }

theorem routed_route (host : Host) (d : Destination) : Routed host d (host.route d) := by
  -- The cases are nested as the calls follow each other.
  cases hsocket : host.socket with
  | error errno =>
    simpa [route, Run.andThen, hsocket] using
      Routed.noSocket (d := d) hsocket
  | ok =>
  cases hbind : host.bind with
  | error errno =>
    simpa [route, Run.andThen, hsocket, hbind] using
      Routed.unbound (d := d) hsocket hbind
  | ok =>
  cases hconnect : host.connect with
  | error errno =>
    simpa [route, Run.andThen, Run.note, hsocket, hbind, hconnect] using
      Routed.unconnected (d := d) hsocket hbind hconnect
  | ok =>
  cases hname : host.socketName with
  | error errno =>
    simpa [route, Run.andThen, Run.note, hsocket, hbind, hconnect,
      hname] using Routed.unnamed (d := d) hsocket hbind hconnect hname
  | ok name =>
    simpa [route, Run.andThen, Run.note, Run.done, hsocket, hbind,
      hconnect, hname] using Routed.answered (d := d) hsocket hbind hconnect hname

theorem probed_route (host : Host) (d : Destination) : (host.route d).probed = [] := by
  have hrouted := host.routed_route d
  generalize host.route d = m at hrouted ⊢
  cases hrouted <;> rfl

end Host

/-! ## Source addresses -/

namespace Resolution

/-- The endings of the search for a source address along a route. -/
inductive Sourced (d : Destination) (route : Run Endpoint) : Run SourceAddress → Prop
  | unrouted {failure : Failure} :
      route.result = .error failure →
      Sourced d route
        { result := .error failure
          probed := route.probed
          calls := route.calls
          notices := .probing d :: route.notices }
  | unspecified {via : Endpoint} :
      route.result = .ok via → SourceAddress.ofIp? via.ip = none →
      Sourced d route
        { result := .error (.unspecified d.endpoint)
          probed := route.probed
          calls := route.calls
          notices := .probing d :: route.notices }
  | found {via : Endpoint} {address : SourceAddress} :
      route.result = .ok via → SourceAddress.ofIp? via.ip = some address →
      Sourced d route
        { result := .ok address
          probed := route.probed
          calls := route.calls
          notices := .probing d :: route.notices ++ [.leaving address] }

theorem sourced_source (d : Destination) (route : Run Endpoint) :
    Sourced d route (source d route) := by
  cases hroute : route.result with
  | error failure =>
    simpa [source, Run.andThen, Run.note, hroute] using Sourced.unrouted (d := d) hroute
  | ok via =>
  cases haddress : SourceAddress.ofIp? via.ip with
  | none =>
    simpa [source, Run.andThen, Run.note, Run.fail, Run.done, hroute, haddress] using
      Sourced.unspecified (d := d) hroute haddress
  | some address =>
    simpa [source, Run.andThen, Run.note, Run.done, hroute, haddress] using
      Sourced.found (d := d) hroute haddress

/-- No route is asked for behind the first, whatever the reply is. -/
theorem probed_source (d : Destination) (route : Run Endpoint) :
    (source d route).probed = route.probed := by
  have hsourced := sourced_source d route
  generalize source d route = m at hsourced ⊢
  cases hsourced <;> rfl

theorem unasked_source (d : Destination) (route : Run Endpoint) :
    (source d route).unasked = source d route.unasked := by
  simp only [source, Run.liftM_eq, Run.bind_eq_andThen, Run.unasked_andThen]
  refine congrArg _ (funext fun _ => congrArg _ (funext fun via => ?_))
  cases SourceAddress.ofIp? via.ip <;> rfl

/-- The search asks for one route. As an inquiry it is the search along the route that it would be
told at this count, and a second question, which would be asked at the next, is never put. -/
theorem after_source (d : Destination) (route : Inquiry Endpoint) (asked : Nat) :
    (source d route).after asked = source d (route.after asked) := by
  -- Up to the question nothing is recorded that counts, and behind it stand notices alone.
  simp only [source, Run.liftM_eq, Run.bind_eq_andThen, Inquiry.after_bind, Inquiry.after_liftM]
  refine congrArg _ (funext fun _ => congrArg _ (funext fun via => ?_))
  cases SourceAddress.ofIp? via.ip <;> rfl

end Resolution

/-! ## Selected addresses -/

namespace Host

/-- The host answers every call for a route to the destination, and its answer to the last has this
address, which is not the wildcard. -/
structure Selects (host : Host) (d : Destination) (ip : Ip) : Prop where
  socket : host.socket = .ok ()
  bind : host.bind = .ok ()
  connect : host.connect = .ok ()
  named : ∃ name, host.socketName = .ok name ∧ (name d.family).ip.canonical = ip
  specified : ip.isUnspecified = false

/-- A host answers the last call only behind all the others. -/
theorem result_route_eq_ok_iff {host : Host} {d : Destination} {via : Endpoint} :
    (host.route d).result = .ok via ↔
      host.socket = .ok () ∧ host.bind = .ok () ∧ host.connect = .ok () ∧
        ∃ name, host.socketName = .ok name ∧ name d.family = via := by
  have hrouted := host.routed_route d
  generalize host.route d = m at hrouted ⊢
  cases hrouted with
  | noSocket hsocket => simp [hsocket]
  | unbound hsocket hbind => simp [hbind]
  | unconnected hsocket hbind hconnect => simp [hconnect]
  | unnamed hsocket hbind hconnect hname => simp [hname]
  | answered hsocket hbind hconnect hname => simp [hsocket, hbind, hconnect, hname]

theorem exists_selects_iff {host : Host} {d : Destination} {via : Endpoint}
    (h : (host.route d).result = .ok via) :
    (∃ ip, host.Selects d ip) ↔ via.ip.canonical.isUnspecified = false := by
  obtain ⟨hsocket, hbind, hconnect, name, hname, rfl⟩ := result_route_eq_ok_iff.1 h
  constructor
  · rintro ⟨ip, hselects⟩
    obtain ⟨name', hname', rfl⟩ := hselects.named
    rw [hname, Except.ok.injEq] at hname'
    exact hname' ▸ hselects.specified
  · intro hspecified
    exact ⟨_, hsocket, hbind, hconnect, ⟨name, hname, rfl⟩, hspecified⟩

end Host

namespace Resolution

theorem result_source_eq_ok_iff {d : Destination} {route : Run Endpoint}
    {address : SourceAddress} :
    (source d route).result = .ok address ↔
      ∃ via, route.result = .ok via ∧ via.ip.canonical = address.ip := by
  have hsourced := sourced_source d route
  generalize source d route = m at hsourced ⊢
  cases hsourced with
  | unrouted hroute => simp [hroute]
  | unspecified hroute hip =>
    -- The wildcard is no source address, so no route can lead to one here.
    have hunspecified := SourceAddress.ofIp?_eq_none_iff.1 hip
    constructor
    · intro h
      contradiction
    · rintro ⟨via, hvia, hcanonical⟩
      rw [hroute, Except.ok.injEq] at hvia
      rw [hvia, hcanonical, address.not_isUnspecified] at hunspecified
      contradiction
  | found hroute hip =>
    -- A source address is told by its canonical form alone.
    have heq := SourceAddress.ip_of_ofIp? hip
    constructor
    · intro h
      rw [Except.ok.injEq] at h
      exact ⟨_, hroute, h ▸ heq.symm⟩
    · rintro ⟨via, hvia, hcanonical⟩
      rw [hroute, Except.ok.injEq] at hvia
      rw [← hvia, ← heq] at hcanonical
      rw [SourceAddress.eq_of_ip_eq hcanonical]

theorem result_source_route_eq_ok_iff {host : Host} {d : Destination} {address : SourceAddress} :
    (source d (host.route d)).result = .ok address ↔ host.Selects d address.ip := by
  rw [result_source_eq_ok_iff]
  constructor
  · rintro ⟨via, hvia, hcanonical⟩
    obtain ⟨hsocket, hbind, hconnect, name, hname, rfl⟩ := Host.result_route_eq_ok_iff.1 hvia
    exact ⟨hsocket, hbind, hconnect, ⟨name, hname, hcanonical⟩, address.not_isUnspecified⟩
  · rintro ⟨hsocket, hbind, hconnect, ⟨name, hname, hcanonical⟩, -⟩
    exact ⟨name d.family,
      Host.result_route_eq_ok_iff.2 ⟨hsocket, hbind, hconnect, name, hname, rfl⟩, hcanonical⟩

/-! ## Resolutions -/

/-- The endings of a resolution, after those of the search for its source address. -/
inductive Resolved (host : Host) (found : Run SourceAddress) : Bool → Run Resolution → Prop
  | unfound {verify : Bool} {failure : Failure} :
      found.result = .error failure →
      Resolved host found verify
        { result := .error failure
          probed := found.probed
          calls := found.calls
          notices := found.notices }
  | unverified {address : SourceAddress} :
      found.result = .ok address →
      Resolved host found false
        { result := .ok { address, interface := none }
          probed := found.probed
          calls := found.calls
          notices := found.notices }
  | unassigned {address : SourceAddress} :
      found.result = .ok address → host.owner? address = none →
      Resolved host found true
        { result := .error (.unassigned address.ip)
          probed := found.probed
          calls := found.calls ++ [.interfaceEntries]
          notices := found.notices ++
            [.checking address host.interfaces.length, .unowned address] }
  | assigned {address : SourceAddress} {i : Interface} :
      found.result = .ok address → host.owner? address = some i →
      Resolved host found true
        { result := .ok { address, interface := some i }
          probed := found.probed
          calls := found.calls ++ [.interfaceEntries]
          notices := found.notices ++
            [.checking address host.interfaces.length, .owned address i.name,
              .assigned address i.name] }

theorem resolved_resolve (host : Host) (d : Destination) (route : Run Endpoint) (verify : Bool) :
    Resolved host (source d route) verify (resolve host d route verify) := by
  cases hfound : (source d route).result with
  | error failure =>
    simpa [resolve, Run.andThen, hfound] using Resolved.unfound hfound
  | ok address =>
  cases verify with
  | false =>
    simpa [resolve, Run.andThen, Run.done, hfound] using Resolved.unverified hfound
  | true =>
  cases howner : host.owner? address with
  | none =>
    simpa [resolve, verified, owner, Run.andThen, Run.fail, Run.done, hfound, howner] using
      Resolved.unassigned hfound howner
  | some i =>
    simpa [resolve, verified, owner, Run.andThen, Run.note, Run.done, hfound, howner] using
      Resolved.assigned hfound howner

/-- Verification does not ask for a route, whatever it comes to. -/
theorem probed_resolve (host : Host) (d : Destination) (route : Run Endpoint) (verify : Bool) :
    (resolve host d route verify).probed = route.probed := by
  rw [← probed_source d route]
  have hresolved := resolved_resolve host d route verify
  generalize resolve host d route verify = m at hresolved ⊢
  cases hresolved <;> rfl

theorem unasked_resolve (host : Host) (d : Destination) (route : Run Endpoint) (verify : Bool) :
    (resolve host d route verify).unasked = resolve host d route.unasked verify := by
  rw [resolve, resolve, ← unasked_source]
  simp only [Run.liftM_eq, Run.bind_eq_andThen, Run.unasked_andThen]
  refine congrArg _ (funext fun address => ?_)
  cases verify with
  | false => rfl
  | true =>
    cases howner : host.owner? address <;>
      simp [verified, owner, Run.andThen, Run.note, Run.fail, Run.done, Run.unasked, howner]

theorem after_resolve (host : Host) (d : Destination) (route : Inquiry Endpoint) (verify : Bool)
    (asked : Nat) :
    (resolve host d route verify).after asked = resolve host d (route.after asked) verify := by
  rw [resolve, resolve, ← after_source]
  cases verify <;> rfl

/-- A resolution needs a source address, and an owner of it only where it is verified. -/
theorem result_resolve_eq_ok_iff {host : Host} {d : Destination} {verify : Bool}
    {r : Resolution} :
    (resolve host d (host.route d) verify).result = .ok r ↔
      host.Selects d r.address.ip ∧
        r.interface = (if verify then host.owner? r.address else none) ∧
        (verify = true → r.interface ≠ none) := by
  rw [← result_source_route_eq_ok_iff]
  have hresolved := resolved_resolve host d (host.route d) verify
  generalize resolve host d (host.route d) verify = m at hresolved ⊢
  obtain ⟨address, interface⟩ := r
  cases hresolved with
  | unfound hfound => simp [hfound]
  | unverified hfound => simp [hfound, eq_comm]
  | unassigned hfound howner =>
    constructor
    · intro h
      contradiction
    · rintro ⟨hsame, hinterface, hne⟩
      -- The address that was found has no owner, but a verified one needs it.
      rw [hfound, Except.ok.injEq] at hsame
      subst hsame
      exact absurd (hinterface.trans howner) (hne rfl)
  | assigned hfound howner =>
    constructor
    · intro h
      cases h
      exact ⟨hfound, by simp [howner], by simp⟩
    · rintro ⟨hsame, hinterface, -⟩
      rw [hfound, Except.ok.injEq] at hsame
      subst hsame
      have hsome : interface = some _ := hinterface.trans howner
      rw [hsome]

end Resolution
end Egress
