import Egress.Proofs.Endings
import Egress.Session

/-!
# Sessions — where a session stands at each of its steps

A session keeps its destination and its prober. Its host is the one that was put in place last, and
its count grows by the questions that are recorded. Main statements: a resolution of the session
records one question and every other request none; and what is reported at a step is the answer of
the session as it stands there.
-/

namespace Egress
namespace Session

/-! ## What a request changes -/

/-- Only a resolution of the session itself asks its prober. -/
def Request.asksProber : Request → Bool
  | .resolve => true
  | .check _ => true
  | _ => false

/-- The host that is in place behind the requests. -/
def hostAfter (host : Host) (requests : List Request) : Host :=
  ((requests.filterMap Request.host?).getLast?).getD host

theorem hostAfter_cons (host : Host) (request : Request) (requests : List Request) :
    hostAfter host (request :: requests) =
      hostAfter (request.host?.getD host) requests := by
  cases h : request.host? with
  | none => simp [hostAfter, h]
  | some next => simp [hostAfter, h, List.getLast?_cons]

theorem hostAfter_append (host : Host) (before after : List Request) :
    hostAfter host (before ++ after) = hostAfter (hostAfter host before) after := by
  induction before generalizing host with
  | nil => rfl
  | cons request before ih => simp [hostAfter_cons, ih]

theorem hostAfter_of_none {requests : List Request} (h : ∀ r ∈ requests, r.host? = none)
    (host : Host) : hostAfter host requests = host := by
  simp [hostAfter, List.filterMap_eq_nil_iff.2 h]

/-! ## What a request asks the prober -/

/-- The route that the prober replies with at the present count. -/
def route (s : Session) : Run Endpoint := s.probe.after s.probes

variable (s : Session)

theorem answerRequest_resolve :
    s.answerRequest .resolve = .ofRun .address (Resolution.source s.destination s.route) := by
  rw [answerRequest, Resolution.after_source]
  rfl

theorem answerRequest_check (verify : Bool) :
    s.answerRequest (.check verify) =
      .ofRun .resolution (Resolution.resolve s.host s.destination s.route verify) := by
  rw [answerRequest, Resolution.after_resolve]
  rfl

/-- The question is recorded before the reply is known. -/
theorem route_eq :
    s.route = (Run.question s.destination).andThen fun _ =>
      s.prober.reply s.host s.probes s.destination :=
  s.prober.after_probe s.host s.destination s.probes

theorem calls_route :
    s.route.calls = (s.prober.reply s.host s.probes s.destination).calls := rfl

theorem notices_route :
    s.route.notices = (s.prober.reply s.host s.probes s.destination).notices := rfl

theorem unasked_route_of_host (h : s.prober = .host) :
    s.route.unasked = s.host.route s.destination := by
  rw [route_eq, h]
  -- The host itself records no question, so that there is nothing else to leave out.
  rcases hroute : s.host.route s.destination with ⟨result, probed, calls, notices⟩
  have hprobed := s.host.probed_route s.destination
  rw [hroute] at hprobed
  subst hprobed
  simp [Prober.reply, hroute, Run.andThen, Run.question, Run.unasked]

theorem probed_reply : (s.prober.reply s.host s.probes s.destination).probed = [] := by
  cases s.prober with
  | host => exact s.host.probed_route s.destination
  | script first others => rfl

theorem probed_route : s.route.probed = [s.destination] := by
  have hquestion : s.route.probed =
      [s.destination] ++ (s.prober.reply s.host s.probes s.destination).probed := rfl
  rw [hquestion, probed_reply, List.append_nil]

/-- Questions are told beside the rest of a run. -/
theorem Report.ofRun_eq {α : Type} (answer : Except Failure α → Answer) (m : Run α) :
    Report.ofRun answer m = { Report.ofRun answer m.unasked with probed := m.probed } := rfl

/-- Beside the question, a session that asks the host does what a resolution without a session
does. -/
theorem answerRequest_resolve_of_host (h : s.prober = .host) :
    s.answerRequest .resolve =
      { Report.ofRun .address (Resolution.source s.destination (s.host.route s.destination)) with
        probed := [s.destination] } := by
  rw [answerRequest_resolve, Report.ofRun_eq, Resolution.unasked_source,
    s.unasked_route_of_host h, Resolution.probed_source, probed_route]

theorem answerRequest_check_of_host (h : s.prober = .host) (verify : Bool) :
    s.answerRequest (.check verify) =
      { s.answerRequest (.settings (.ok s.destination) verify) with
        probed := [s.destination] } := by
  rw [answerRequest_check, Report.ofRun_eq, Resolution.unasked_resolve,
    s.unasked_route_of_host h, Resolution.probed_resolve, probed_route]
  rfl

/-- A resolution of the session asks its prober for one route, whatever it comes to. Resolutions
that are not its own do not ask that prober. -/
theorem probed_answerRequest (request : Request) :
    (s.answerRequest request).probed = if request.asksProber then [s.destination] else [] := by
  cases request with
  | destination => rfl
  | resolve =>
    rw [answerRequest_resolve]
    exact (Resolution.probed_source _ _).trans s.probed_route
  | check verify =>
    rw [answerRequest_check]
    exact (Resolution.probed_resolve _ _ _ _).trans s.probed_route
  | settings destination verify =>
    cases destination with
    | error why => rfl
    | ok destination =>
      exact (Resolution.probed_resolve _ _ _ _).trans (s.host.probed_route destination)
  | standard => exact (Resolution.probed_source _ _).trans (s.host.probed_route default)
  | owner ip =>
    cases ip with
    | error why => rfl
    | ok ip =>
      cases haddress : SourceAddress.ofIp? ip <;>
        simp [answerRequest, haddress, Report.ofRun, Resolution.owner, Request.asksProber]
  | host next => rfl

theorem next_eq (request : Request) :
    s.next request =
      { s with
        host := request.host?.getD s.host
        probes := s.probes + if request.asksProber then 1 else 0 } := by
  have hcount : (s.answerRequest request).probed.length =
      if request.asksProber then 1 else 0 := by
    rw [probed_answerRequest]
    cases request.asksProber <;> rfl
  rw [next, hcount]

/-- The session after its prober was asked once more. -/
def asked : Session := { s with probes := s.probes + 1 }

theorem next_of_asksProber {request : Request} (h : request.asksProber = true) :
    s.next request = s.asked := by
  rw [next_eq, if_pos h]
  cases request with
  | resolve => rfl
  | check verify => rfl
  | _ => contradiction

/-! ## Where it stands -/

theorem foldl_next (requests : List Request) :
    requests.foldl next s =
      { s with
        host := hostAfter s.host requests
        probes := s.probes + requests.countP Request.asksProber } := by
  -- The induction is on the requests for every session that they can start from.
  induction requests generalizing s with
  | nil => rfl
  | cons request requests ih =>
    rw [List.foldl_cons, ih, next_eq, hostAfter_cons, List.countP_cons]
    simp only [Nat.add_assoc, Nat.add_comm (requests.countP Request.asksProber)]

/-- The report of a step is the answer of the session behind all the steps before it. -/
theorem getElem?_run_append (before after : List Request) (request : Request) :
    (s.run (before ++ request :: after))[before.length]? =
      some ((before.foldl next s).answerRequest request,
        ((before.foldl next s).next request).probes) := by
  rw [run_append, List.getElem?_append_right (by simp [length_run]), length_run, Nat.sub_self]
  rfl

end Session
end Egress
