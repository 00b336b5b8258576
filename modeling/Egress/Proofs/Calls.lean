import Egress.Proofs.Endings
import Egress.Proofs.Sessions

/-!
# Calls — what a session does to its host

A session that asks the host for its routes makes the same four calls each time, in the same order,
and stops at the first that is refused; whatever fails then names that call. The interfaces are
listed at most once, and only for an address that has to be verified or was asked for. Main
statement: every step of every session does so, with the host as it is at that step.
-/

namespace Egress

/-! ## The plan of a route -/

namespace Destination

/-- The calls that it takes to learn the route to a destination. -/
def plan (d : Destination) : List Call :=
  [.socket d.family, .bind (.wildcard d.family), .connect d.endpoint, .socketName]

end Destination

namespace Call

/-- The calls about a socket are all but the one for the interfaces. -/
def isSocketCall : Call → Bool
  | .interfaceEntries => false
  | _ => true

/-- The failure of a route to the destination when this call is refused. No route lists the
interfaces. -/
def failure? (d : Destination) (errno : Errno) : Call → Option Failure
  | .socket _ => some (.bind (.wildcard d.family) (.os errno))
  | .bind _ => some (.bind (.wildcard d.family) (.os errno))
  | .connect _ => some (.connect d.endpoint (.os errno))
  | .socketName => some (.localEndpoint (.os errno))
  | .interfaceEntries => none

end Call

/-- The error that an answer of the host tells. -/
def Errno.ofAnswer? {α : Type} : Except Errno α → Option Errno
  | .ok _ => none
  | .error errno => some errno

namespace Host

/-- The error with which the host refuses a call, if it does. -/
def refusal? (host : Host) : Call → Option Errno
  | .socket _ => Errno.ofAnswer? host.socket
  | .bind _ => Errno.ofAnswer? host.bind
  | .connect _ => Errno.ofAnswer? host.connect
  | .socketName => Errno.ofAnswer? host.socketName
  | .interfaceEntries => Errno.ofAnswer? host.interfaceEntries

end Host

/-! ## The calls of a route -/

theorem isSocketCall_of_mem_plan {d : Destination} {call : Call} (h : call ∈ d.plan) :
    call.isSocketCall = true := by
  have hall : ∀ call ∈ d.plan, call.isSocketCall = true := by
    simp [Destination.plan, Call.isSocketCall]
  exact hall call h

theorem interfaceEntries_not_mem_plan (d : Destination) : .interfaceEntries ∉ d.plan := by
  intro h
  exact absurd (isSocketCall_of_mem_plan h) (by decide)

/-- Only the destination itself is connected to. -/
theorem eq_endpoint_of_connect_mem_plan {d : Destination} {remote : Endpoint}
    (h : .connect remote ∈ d.plan) : remote = d.endpoint := by
  simpa [Destination.plan] using h

/-- A plan that is begun is begun with the socket. -/
theorem socket_mem_of_isPrefix {d : Destination} {calls : List Call} (hne : calls ≠ [])
    (h : calls <+: d.plan) : .socket d.family ∈ calls := by
  cases calls with
  | nil =>
    exact absurd rfl hne
  | cons call calls =>
    obtain ⟨hcall, -⟩ := List.cons_prefix_cons.1 h
    exact hcall ▸ List.mem_cons_self

theorem connectable_endpoint (d : Destination) :
    1 ≤ d.endpoint.port.toNat ∧ d.endpoint.port.toNat ≤ 65535 := by
  have hzero : d.endpoint.port.toNat ≠ 0 := fun h =>
    d.port_ne_zero (UInt16.toNat_inj.1 h)
  have hlt := d.endpoint.port.toNat_lt
  omega

theorem refusal?_of_selects {host : Host} {d : Destination} {ip : Ip} (h : host.Selects d ip) :
    ∀ call ∈ d.plan, host.refusal? call = none := by
  obtain ⟨name, hname, -⟩ := h.named
  simp [Destination.plan, Host.refusal?, h.socket, h.bind, h.connect, hname, Errno.ofAnswer?]

/-- A route ends at the first call of its plan that is refused, or else has its answer. -/
theorem route_calls (host : Host) (d : Destination) :
    (∃ done call rest errno failure, d.plan = done ++ call :: rest ∧
      (∀ call ∈ done, host.refusal? call = none) ∧ host.refusal? call = some errno ∧
      call.failure? d errno = some failure ∧ (host.route d).calls = done ++ [call] ∧
      (host.route d).result = .error failure) ∨
    (∀ call ∈ d.plan, host.refusal? call = none) ∧ (host.route d).calls = d.plan ∧
      ∃ via, (host.route d).result = .ok via := by
  have hrouted := host.routed_route d
  generalize host.route d = m at hrouted ⊢
  -- Each ending that fails names the part of the plan in front of the call that was refused.
  cases hrouted with
  | noSocket hsocket =>
    refine .inl ⟨[], _, _, _, _, rfl, ?_, ?_, rfl, rfl, rfl⟩
    · simp
    · simp [Host.refusal?, hsocket, Errno.ofAnswer?]
  | unbound hsocket hbind =>
    refine .inl ⟨[_], _, _, _, _, rfl, ?_, ?_, rfl, rfl, rfl⟩
    · simp [Host.refusal?, hsocket, Errno.ofAnswer?]
    · simp [Host.refusal?, hbind, Errno.ofAnswer?]
  | unconnected hsocket hbind hconnect =>
    refine .inl ⟨[_, _], _, _, _, _, rfl, ?_, ?_, rfl, rfl, rfl⟩
    · simp [Host.refusal?, hsocket, hbind, Errno.ofAnswer?]
    · simp [Host.refusal?, hconnect, Errno.ofAnswer?]
  | unnamed hsocket hbind hconnect hname =>
    refine .inl ⟨[_, _, _], _, _, _, _, rfl, ?_, ?_, rfl, rfl, rfl⟩
    · simp [Host.refusal?, hsocket, hbind, hconnect, Errno.ofAnswer?]
    · simp [Host.refusal?, hname, Errno.ofAnswer?]
  | answered hsocket hbind hconnect hname =>
    refine .inr ⟨?_, rfl, _, rfl⟩
    simp [Destination.plan, Host.refusal?, hsocket, hbind, hconnect, hname, Errno.ofAnswer?]

/-! ## What the calls of a step look like -/

/-- The calls of a step that resolves a destination, and the failure that the step ends with. -/
structure ResolvingCalls (host : Host) (d : Destination) (verify : Bool) (calls : List Call)
    (failure? : Option Failure) : Prop where
  inOrder : calls.filter Call.isSocketCall <+: d.plan
  ne_nil : calls.filter Call.isSocketCall ≠ []
  /-- Only the last call for the socket can have been refused. -/
  answered : ∀ call ∈ (calls.filter Call.isSocketCall).dropLast, host.refusal? call = none
  /-- Where none was refused, none is missing. -/
  complete : (∀ call ∈ calls.filter Call.isSocketCall, host.refusal? call = none) →
    calls.filter Call.isSocketCall = d.plan
  /-- A refused call is the last of all calls, and the step fails for it. -/
  refused : ∀ call ∈ calls, ∀ errno failure, host.refusal? call = some errno →
    call.failure? d errno = some failure →
    calls.getLast? = some call ∧ failure? = some failure
  connectable : ∀ remote, .connect remote ∈ calls →
    1 ≤ remote.port.toNat ∧ remote.port.toNat ≤ 65535 ∧ .socket remote.family ∈ calls
  listed_le : calls.count .interfaceEntries ≤ 1
  listed_iff : .interfaceEntries ∈ calls ↔ verify = true ∧ ∃ ip, host.Selects d ip

/-! ## The calls of a resolution -/

/-- The failure that a result tells. -/
def Failure.ofResult? {α : Type} : Except Failure α → Option Failure
  | .ok _ => none
  | .error failure => some failure

section

variable {host : Host} {d : Destination} {verify : Bool} {calls : List Call}
  {failure? : Option Failure}

theorem resolvingCalls_of_refused {done rest : List Call} {call : Call} {errno : Errno}
    {failure : Failure} (hplan : d.plan = done ++ call :: rest)
    (hdone : ∀ call ∈ done, host.refusal? call = none)
    (hrefusal : host.refusal? call = some errno)
    (hfailure : call.failure? d errno = some failure) :
    ResolvingCalls host d verify (done ++ [call]) (some failure) := by
  have hbegun : done ++ [call] <+: d.plan := ⟨rest, by simp [hplan]⟩
  have hmem : ∀ other ∈ done ++ [call], other ∈ d.plan := fun other h => hbegun.subset h
  have hunlisted : .interfaceEntries ∉ done ++ [call] := fun h =>
    interfaceEntries_not_mem_plan d (hmem _ h)
  -- Nothing is filtered out, for a plan has only calls about the socket.
  have hsocket : (done ++ [call]).filter Call.isSocketCall = done ++ [call] :=
    List.filter_eq_self.2 fun other h => isSocketCall_of_mem_plan (hmem other h)
  constructor
  case inOrder =>
    rwa [hsocket]
  case ne_nil =>
    simp [hsocket]
  case answered =>
    simpa [hsocket] using hdone
  case complete =>
    intro hnone
    have hcall := hnone call (by simp [hsocket])
    simp [hrefusal] at hcall
  case refused =>
    intro other hother errno' failure' hrefusal' hfailure'
    rcases List.mem_append.1 hother with hother | hother
    · simp [hdone other hother] at hrefusal'
    · rw [List.mem_singleton] at hother
      subst hother
      rw [hrefusal, Option.some.injEq] at hrefusal'
      subst hrefusal'
      exact ⟨by simp, hfailure.symm.trans hfailure'⟩
  case connectable =>
    intro remote hremote
    have heq := eq_endpoint_of_connect_mem_plan (hmem _ hremote)
    have hfamily := socket_mem_of_isPrefix (by simp) hbegun
    subst heq
    exact ⟨(connectable_endpoint d).1, (connectable_endpoint d).2, hfamily⟩
  case listed_le =>
    rw [List.count_eq_zero.2 hunlisted]
    exact Nat.zero_le 1
  case listed_iff =>
    constructor
    · intro h
      exact absurd h hunlisted
    · rintro ⟨-, ip, hselects⟩
      -- A host that selects an address refuses no call of the plan.
      have hcall := refusal?_of_selects hselects call (by simp [hplan])
      simp [hrefusal] at hcall

theorem resolvingCalls_of_answered {listed : Bool}
    (hanswered : ∀ call ∈ d.plan, host.refusal? call = none)
    (hlisted : listed = true ↔ verify = true ∧ ∃ ip, host.Selects d ip) :
    ResolvingCalls host d verify (d.plan ++ if listed then [.interfaceEntries] else [])
      failure? := by
  generalize hextra : (if listed then [Call.interfaceEntries] else []) = extra
  have hmem : ∀ call, call ∈ extra ↔ listed = true ∧ call = .interfaceEntries := by
    intro call
    subst hextra
    cases listed <;> simp
  -- The extra call is not about the socket.
  have hnone : extra.filter Call.isSocketCall = [] := by
    refine List.filter_eq_nil_iff.2 fun call hcall => ?_
    rw [((hmem call).1 hcall).2]
    decide
  have hsocket : (d.plan ++ extra).filter Call.isSocketCall = d.plan := by
    rw [List.filter_append, hnone, List.append_nil]
    exact List.filter_eq_self.2 fun call h => isSocketCall_of_mem_plan h
  constructor
  case inOrder =>
    simp only [hsocket, List.prefix_rfl]
  case ne_nil =>
    rw [hsocket]
    exact List.cons_ne_nil _ _
  case answered =>
    intro call hcall
    rw [hsocket] at hcall
    exact hanswered call (List.dropLast_subset _ hcall)
  case complete =>
    exact fun _ => hsocket
  case refused =>
    intro call hcall errno failure hrefusal hfailure
    rcases List.mem_append.1 hcall with hcall | hcall
    · simp [hanswered call hcall] at hrefusal
    · -- A host that does not list its interfaces fails no step.
      rw [((hmem call).1 hcall).2] at hfailure
      contradiction
  case connectable =>
    intro remote hremote
    have hplanned : .connect remote ∈ d.plan := by
      rcases List.mem_append.1 hremote with h | h
      · exact h
      · exact absurd ((hmem _).1 h).2 (by simp)
    have heq := eq_endpoint_of_connect_mem_plan hplanned
    have hfamily := socket_mem_of_isPrefix (List.cons_ne_nil _ _) (List.prefix_refl d.plan)
    subst heq
    exact ⟨(connectable_endpoint d).1, (connectable_endpoint d).2,
      List.mem_append_left _ hfamily⟩
  case listed_le =>
    rw [List.count_append, List.count_eq_zero.2 (interfaceEntries_not_mem_plan d), ← hextra]
    cases listed <;> decide
  case listed_iff =>
    rw [← hlisted, List.mem_append, hmem]
    simp [interfaceEntries_not_mem_plan d]

end

namespace Resolution

theorem resolve_of_unrouted (host : Host) (d : Destination) (verify : Bool)
    {route : Run Endpoint} {failure : Failure} (h : route.result = .error failure) :
    (resolve host d route verify).calls = route.calls ∧
      (resolve host d route verify).result = .error failure := by
  have hsourced := sourced_source d route
  have hresolved := resolved_resolve host d route verify
  generalize resolve host d route verify = m at hresolved ⊢
  generalize source d route = found at hsourced hresolved
  cases hsourced with
  | unrouted hroute =>
    rw [h, Except.error.injEq] at hroute
    subst hroute
    cases hresolved with
    | unfound hfound =>
      cases hfound
      exact ⟨rfl, rfl⟩
    | unverified hfound => contradiction
    | unassigned hfound => contradiction
    | assigned hfound => contradiction
  | unspecified hroute => simp [h] at hroute
  | found hroute => simp [h] at hroute

/-- The interfaces are listed to verify a source address, and not where there is none. -/
theorem calls_resolve_of_routed (host : Host) (d : Destination) (verify : Bool)
    {route : Run Endpoint} {via : Endpoint} (h : route.result = .ok via) :
    (resolve host d route verify).calls =
      route.calls ++
        if verify && !via.ip.canonical.isUnspecified then [.interfaceEntries] else [] := by
  have hsourced := sourced_source d route
  have hresolved := resolved_resolve host d route verify
  generalize resolve host d route verify = m at hresolved ⊢
  generalize source d route = found at hsourced hresolved
  cases hsourced with
  | unrouted hroute => simp [h] at hroute
  | unspecified hroute hip =>
    rw [h, Except.ok.injEq] at hroute
    subst hroute
    -- There is nothing to verify.
    have hunspecified := SourceAddress.ofIp?_eq_none_iff.1 hip
    cases hresolved with
    | unfound => simp [hunspecified]
    | unverified hfound => contradiction
    | unassigned hfound => contradiction
    | assigned hfound => contradiction
  | found hroute hip =>
    rw [h, Except.ok.injEq] at hroute
    subst hroute
    have hspecified : via.ip.canonical.isUnspecified = false := by
      rw [← SourceAddress.ip_of_ofIp? hip]
      exact SourceAddress.not_isUnspecified _
    cases hresolved with
    | unfound hfound => contradiction
    | unverified => simp
    | unassigned => simp [hspecified]
    | assigned => simp [hspecified]

end Resolution

theorem resolvingCalls_resolve (host : Host) (d : Destination) (verify : Bool) :
    ResolvingCalls host d verify (Resolution.resolve host d (host.route d) verify).calls
      (Failure.ofResult? (Resolution.resolve host d (host.route d) verify).result) := by
  -- Either the route failed, and all of it is what the resolution does, or it was answered.
  rcases route_calls host d with ⟨done, call, rest, errno, failure, hplan, hdone, hrefusal,
    hfailure, hcalls, hresult⟩ | ⟨hanswered, hcalls, via, hresult⟩
  · obtain ⟨hsame, hfails⟩ := Resolution.resolve_of_unrouted host d verify hresult
    rw [hsame, hfails, hcalls]
    exact resolvingCalls_of_refused hplan hdone hrefusal hfailure
  · rw [Resolution.calls_resolve_of_routed host d verify hresult, hcalls]
    refine resolvingCalls_of_answered hanswered ?_
    simp [Host.exists_selects_iff hresult]

/-- A search for the source address alone is a resolution that verifies nothing. -/
theorem resolvingCalls_source (host : Host) (d : Destination) :
    ResolvingCalls host d false (Resolution.source d (host.route d)).calls
      (Failure.ofResult? (Resolution.source d (host.route d)).result) := by
  have hcalls := resolvingCalls_resolve host d false
  have hresolved := Resolution.resolved_resolve host d (host.route d) false
  generalize Resolution.resolve host d (host.route d) false = m at hcalls hresolved
  cases hresolved with
  | unfound hfound => simpa [Failure.ofResult?, hfound] using hcalls
  | unverified hfound => simpa [Failure.ofResult?, hfound] using hcalls

/-! ## The calls of a session -/

namespace Session

/-- The failure that an answer tells. -/
def Answer.failure? : Answer → Option Failure
  | .address result => Failure.ofResult? result
  | .resolution result => Failure.ofResult? result
  | _ => none

/-- The calls that a request leads to in a session that asks the host for its routes. -/
def RequestCalls (host : Host) (d : Destination) : Request → Report → Prop
  | .destination, report => report.calls = []
  | .resolve, report => ResolvingCalls host d false report.calls report.answer.failure?
  | .check verify, report => ResolvingCalls host d verify report.calls report.answer.failure?
  | .settings (.ok own) verify, report =>
    ResolvingCalls host own verify report.calls report.answer.failure?
  | .settings (.error _) _, report => report.calls = []
  | .standard, report =>
    ResolvingCalls host (.standard .v4) false report.calls report.answer.failure?
  | .owner (.ok ip), report =>
    report.calls = if (SourceAddress.ofIp? ip).isSome then [.interfaceEntries] else []
  | .owner (.error _), report => report.calls = []
  | .host _, report => report.calls = []

theorem requestCalls_answerRequest (s : Session) (hprober : s.prober = .host)
    (request : Request) :
    RequestCalls s.host s.destination request (s.answerRequest request) := by
  -- The session asks its prober for two requests alone; the others have routes of their own.
  cases request with
  | destination => rfl
  | resolve =>
    rw [s.answerRequest_resolve_of_host hprober]
    exact resolvingCalls_source s.host s.destination
  | check verify =>
    rw [s.answerRequest_check_of_host hprober]
    exact resolvingCalls_resolve s.host s.destination verify
  | settings destination verify =>
    cases destination with
    | error why => rfl
    | ok own => exact resolvingCalls_resolve s.host own verify
  | standard => exact resolvingCalls_source s.host (.standard .v4)
  | owner ip =>
    cases ip with
    | error why => rfl
    | ok ip =>
      cases hip : SourceAddress.ofIp? ip <;>
        simp [RequestCalls, answerRequest, hip, Report.ofRun, Resolution.owner]
  | host next => rfl

/-- Every step of a session that asks the host for its routes makes the calls of its request and no
others, with the host that is in place at that step and the destination of the session. -/
theorem run_makes_requestCalls (d : Destination) (host : Host) (probes : Nat)
    (before after : List Request) (request : Request) :
    ∃ report count,
      ({ destination := d, prober := .host, host, probes : Session }.run
        (before ++ request :: after))[before.length]? = some (report, count) ∧
      RequestCalls (hostAfter host before) d request report := by
  refine ⟨_, _, getElem?_run_append _ before after request, ?_⟩
  rw [foldl_next]
  exact requestCalls_answerRequest _ rfl request

end Session
end Egress
