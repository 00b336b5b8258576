import Egress.Proofs.Outcomes
import Egress.Proofs.Owners
import Egress.Proofs.Sessions

/-!
# Verification — what a check adds to a resolution

A checked resolution first does what a plain one does, and only then looks for an owner, where that
was asked for. Main statement: whatever the prober replies and whatever interfaces there are, a
checked resolution fails as the plain one does, or it comes to the same address and to an interface
that is up and has it. What the plain one reports, it reports first.
-/

namespace Egress

theorem Run.notices_isPrefix_andThen {α β : Type} (m : Run α) (f : α → Run β) :
    m.notices <+: (m.andThen f).notices := by
  cases h : m.result with
  | error failure => simp [andThen, h]
  | ok a => simp [andThen, h]

namespace Resolution

variable (host : Host) {d : Destination} {route : Run Endpoint}

/-! ## A source address and its verification -/

/-- A source address is told from the answers to the route; it takes no call of its own. -/
theorem calls_source (d : Destination) (route : Run Endpoint) :
    (source d route).calls = route.calls := by
  have hsourced := sourced_source d route
  generalize source d route = m at hsourced ⊢
  cases hsourced with
  | unrouted => rfl
  | unspecified => rfl
  | found => rfl

/-- Without a source address there is nothing to verify. -/
theorem resolve_of_unsourced {failure : Failure} (h : (source d route).result = .error failure)
    (verify : Bool) :
    (resolve host d route verify).result = .error failure ∧
      (resolve host d route verify).calls = route.calls := by
  have hcalls := calls_source d route
  simp [resolve, Run.andThen, h, hcalls]

theorem result_resolve_unverified {address : SourceAddress}
    (h : (source d route).result = .ok address) :
    (resolve host d route false).result = .ok { address, interface := none } := by
  simp [resolve, Run.andThen, Run.done, h]

/-- Verification ends with an interface that has just this address, or fails for want of one. -/
theorem result_resolve_verified {address : SourceAddress}
    (h : (source d route).result = .ok address) :
    (∃ i ∈ host.interfaces, i.isUp = true ∧ (∃ net ∈ i.nets, net.ip = address.ip) ∧
      (resolve host d route true).result = .ok { address, interface := some i }) ∨
    ¬host.Assigns address.ip ∧
      (resolve host d route true).result = .error (.unassigned address.ip) := by
  have hresolved := resolved_resolve host d route true
  generalize resolve host d route true = m at hresolved ⊢
  cases hresolved with
  | unfound hfound => simp [h] at hfound
  | unassigned hfound howner =>
    rw [h, Except.ok.injEq] at hfound
    subst hfound
    refine .inr ⟨fun hassigns => ?_, rfl⟩
    exact Host.owner?_ne_none_iff.2 hassigns howner
  | @assigned _ i hfound howner =>
    rw [h, Except.ok.injEq] at hfound
    subst hfound
    -- The search looks through the table, and stops only at an owner.
    obtain ⟨hmem, howns⟩ := Interface.owns_of_owner? howner
    obtain ⟨hup, hnet⟩ := Interface.owns_iff.1 howns
    exact .inl ⟨i, hmem, hup, hnet, rfl⟩

theorem result_source_of_verified {r : Resolution}
    (h : (resolve host d route true).result = .ok r) :
    (source d route).result = .ok r.address := by
  have hresolved := resolved_resolve host d route true
  generalize resolve host d route true = m at h hresolved
  cases hresolved with
  | unfound => contradiction
  | unassigned => contradiction
  | assigned hfound =>
    cases h
    exact hfound

/-- What the search for a source address reports comes first. -/
theorem notices_source_isPrefix (d : Destination) (route : Run Endpoint) (verify : Bool) :
    (source d route).notices <+: (resolve host d route verify).notices :=
  Run.notices_isPrefix_andThen _ _

end Resolution

/-! ## Requests of a session -/

namespace Session

/-- No route lists the interfaces, whoever replies. -/
theorem interfaceEntries_not_mem_route (s : Session) : .interfaceEntries ∉ s.route.calls := by
  rw [calls_route]
  cases s.prober with
  | script first others => exact List.not_mem_nil
  | host =>
    have hrouted := s.host.routed_route s.destination
    rw [Prober.reply]
    generalize s.host.route s.destination = m at hrouted ⊢
    cases hrouted <;> simp

/-- Whatever fails a plain resolution fails a checked one in the same way, with the same calls and
no look at the interfaces. An address that a plain resolution comes to is what a checked one comes
to: without an interface if none was asked for, and else with one that is up and has just this
address. Only for want of such an interface does verification fail. The events of the plain
resolution are the first events of the checked one. -/
theorem verification_only_adds (s : Session) :
    let plain := s.answerRequest .resolve
    let checked := fun verify => s.answerRequest (.check verify)
    (∃ result, plain.answer = .address result) ∧
    (∀ failure, plain.answer = .address (.error failure) → ∀ verify,
      (checked verify).answer = .resolution (.error failure) ∧
      (checked verify).calls = plain.calls ∧ .interfaceEntries ∉ (checked verify).calls) ∧
    (∀ address, plain.answer = .address (.ok address) →
      (checked false).answer = .resolution (.ok { address, interface := none }) ∧
      ((∃ i ∈ s.host.interfaces, i.isUp = true ∧ (∃ net ∈ i.nets, net.ip = address.ip) ∧
          (checked true).answer = .resolution (.ok { address, interface := some i })) ∨
        (checked true).answer = .resolution (.error (.unassigned address.ip))) ∧
      ((checked true).answer = .resolution (.error (.unassigned address.ip)) ↔
        ¬∃ i ∈ s.host.interfaces, i.isUp = true ∧ ∃ net ∈ i.nets, net.ip = address.ip)) ∧
    (∀ r, (checked true).answer = .resolution (.ok r) →
      plain.answer = .address (.ok r.address) ∧
      (checked false).answer = .resolution (.ok { address := r.address, interface := none })) ∧
    ∀ verify, plain.notices.map Notice.event <+: (checked verify).notices.map Notice.event := by
  intro plain checked
  -- Each is told by the run along the route that the prober replies with.
  have hplainRun := s.answerRequest_resolve
  have hcheckedRun := s.answerRequest_check
  have hplain : plain.answer = .address (Resolution.source s.destination s.route).result :=
    congrArg Report.answer hplainRun
  have hchecked : ∀ verify, (checked verify).answer =
      .resolution (Resolution.resolve s.host s.destination s.route verify).result :=
    fun verify => congrArg Report.answer (hcheckedRun verify)
  refine ⟨⟨_, hplain⟩, fun failure h verify => ?_, fun address h => ?_, fun r h => ?_,
    fun verify => ?_⟩
  · rw [hplain, Answer.address.injEq] at h
    obtain ⟨hresult, hcalls⟩ := Resolution.resolve_of_unsourced s.host h verify
    have hsame : (checked verify).calls = s.route.calls :=
      (congrArg Report.calls (hcheckedRun verify)).trans hcalls
    have hown : plain.calls = s.route.calls :=
      (congrArg Report.calls hplainRun).trans (Resolution.calls_source _ _)
    refine ⟨by rw [hchecked, hresult], by rw [hsame, hown], ?_⟩
    rw [hsame]
    exact s.interfaceEntries_not_mem_route
  · rw [hplain, Answer.address.injEq] at h
    refine ⟨by rw [hchecked, Resolution.result_resolve_unverified s.host h], ?_⟩
    rcases Resolution.result_resolve_verified s.host h with
      ⟨i, hi, hup, hnet, hresult⟩ | ⟨hnone, hresult⟩
    · have hassigns : s.host.Assigns address.ip := ⟨i, hi, hup, hnet⟩
      rw [hchecked, hresult]
      exact ⟨.inl ⟨i, hi, hup, hnet, rfl⟩, by simp, fun h => absurd hassigns h⟩
    · rw [hchecked, hresult]
      exact ⟨.inr rfl, fun _ => hnone, fun _ => rfl⟩
  · rw [hchecked, Answer.resolution.injEq] at h
    have hsource := Resolution.result_source_of_verified s.host h
    exact ⟨by rw [hplain, hsource],
      by rw [hchecked, Resolution.result_resolve_unverified s.host hsource]⟩
  · have hnotices : plain.notices <+: (checked verify).notices := by
      rw [show plain = _ from hplainRun, show checked verify = _ from hcheckedRun verify]
      exact Resolution.notices_source_isPrefix s.host s.destination s.route verify
    exact hnotices.map _

/-- A prober that itself replies with a failed verification is believed, though the address has an
owner. Its next reply is verified. -/
theorem verification_only_adds_to_replies :
    let failure : Failure := .unassigned (.v4 ⟨10, 0, 0, 5⟩)
    let s : Session :=
      { destination := default
        prober := .script (.error failure) [.ok (.v6 (.ofIpv4 ⟨10, 0, 0, 5⟩) 40000 0 0)]
        host :=
          { socketName := .error 9
            interfaceEntries := .ok
              [{ name := "eth0", flags := 1, attachment := .address (.v4 ⟨10, 0, 0, 5⟩) none }] } }
    (s.answerRequest (.check true)).answer = .resolution (.error failure) ∧
    ∃ r, (s.asked.answerRequest (.check true)).answer = .resolution (.ok r) ∧
      (s.asked.answerRequest .resolve).answer = .address (.ok r.address) := by
  intro failure s
  refine ⟨((verification_only_adds s).2.1 failure rfl true).1, _, rfl, ?_⟩
  exact ((verification_only_adds s.asked).2.2.2.1 _ rfl).1

end Session
end Egress
