import Egress.Proofs.Sessions

/-!
# Replies — when a session asks its prober, and what it makes of the reply

A session asks its prober once for each resolution of its own, whatever comes of it, and never for
anything else. A script replies in its order, with its last reply again and again, and the host
always replies alike. Most other requests leave the session as it is. Main statement: the count at
every step, the reply behind every resolution, and that such requests can be left out of a session
without a trace.
-/

namespace Egress

/-! ## What a reply leads to -/

namespace Reply

/-- The source address that a reply tells. A wildcard is no source address. -/
def source (d : Destination) (reply : Reply) : Except Failure SourceAddress :=
  reply.bind fun via =>
    (SourceAddress.ofIp? via.ip).elim (.error (.unspecified d.endpoint)) .ok

/-- The resolution that a reply leads to, with the owner of its address where that is verified. -/
def resolution (host : Host) (d : Destination) (verify : Bool) (reply : Reply) :
    Except Failure Resolution :=
  (reply.source d).bind fun address =>
    if verify then
      (host.owner? address).elim (.error (.unassigned address.ip)) fun i =>
        .ok { address, interface := some i }
    else .ok { address, interface := none }

/-- A resolution comes to the same address or the same failure where the same addresses have an
owner, whichever it is. -/
theorem map_address_resolution {host host' : Host}
    (howners : ∀ address, (host.owner? address).isSome = (host'.owner? address).isSome)
    (d : Destination) (verify : Bool) (reply : Reply) :
    (reply.resolution host d verify).map Resolution.address =
      (reply.resolution host' d verify).map Resolution.address := by
  unfold resolution
  cases reply.source d with
  | error failure => rfl
  | ok address =>
    cases verify with
    | false => rfl
    | true =>
      have hsame := howners address
      simp only [Except.bind, if_true]
      cases howner : host.owner? address with
      | none =>
        cases howner' : host'.owner? address with
        | none => rfl
        | some i' => simp [howner, howner'] at hsame
      | some i =>
        cases howner' : host'.owner? address with
        | none => simp [howner, howner'] at hsame
        | some i' => rfl

end Reply

namespace Resolution

/-- A search for the source address depends on what the route leads to and on nothing else. -/
theorem result_source (d : Destination) (route : Run Endpoint) :
    (source d route).result = Reply.source d route.result := by
  simp only [source, Run.bind_eq_andThen, Run.result_andThen, Run.note, Except.bind, Reply.source]
  cases route.result with
  | error failure => rfl
  | ok via =>
    cases haddress : SourceAddress.ofIp? via.ip with
    | none => simp [haddress, Run.fail, Run.done]
    | some address => simp [haddress, Run.andThen, Run.done]

theorem result_verified (host : Host) (address : SourceAddress) :
    (verified host address).result =
      (host.owner? address).elim (.error (.unassigned address.ip)) fun i =>
        .ok { address, interface := some i } := by
  simp only [verified, Run.bind_eq_andThen, Run.result_andThen, owner, Except.bind]
  cases host.owner? address <;> rfl

theorem result_resolve (host : Host) (d : Destination) (route : Run Endpoint) (verify : Bool) :
    (resolve host d route verify).result = Reply.resolution host d verify route.result := by
  simp only [resolve, Run.bind_eq_andThen, Run.result_andThen, result_source, Reply.resolution]
  cases verify with
  | false => rfl
  | true => simp only [if_true, Run.liftM_eq, result_verified]

end Resolution

namespace Prober

/-- Questions are numbered from one, and so are the replies of a script. -/
theorem getElem?_replies (first : Reply) (others : List Reply) (asked : Nat) :
    (first :: others)[min (asked + 1) (first :: others).length - 1]? =
      some (replyAt first others asked) := by
  by_cases h : asked < (first :: others).length
  · have hmin : min (asked + 1) (first :: others).length - 1 = asked := by omega
    rw [hmin, replyAt_eq_getElem h, List.getElem?_eq_getElem h]
  · have hmin : min (asked + 1) (first :: others).length - 1 = (first :: others).length - 1 := by
      omega
    have hle : others.length ≤ asked := by
      rw [List.length_cons] at h
      omega
    rw [hmin, replyAt_of_length_le hle, ← List.getLast?_eq_getElem?, List.getLast?_eq_some_getLast]

end Prober

namespace Session

/-! ## One request -/

namespace Request

/-- A request that only looks at the session, or asks for what is not part of it. -/
def isPassing : Request → Bool
  | .destination => true
  | .resolve => false
  | .check _ => false
  | .settings _ _ => true
  | .standard => true
  | .owner _ => true
  | .host _ => false

/-- What a resolution of the session is answered when its prober gives this reply. -/
def answer? (host : Host) (d : Destination) (reply : Reply) : Request → Option Answer
  | .resolve => some (.address (reply.source d))
  | .check verify => some (.resolution (reply.resolution host d verify))
  | _ => none

end Request

theorem next_of_isPassing (s : Session) {request : Request} (h : request.isPassing = true) :
    s.next request = s := by
  rw [next_eq]
  cases request with
  | destination => rfl
  | settings => rfl
  | standard => rfl
  | owner => rfl
  | resolve => contradiction
  | check => contradiction
  | host => contradiction

/-- The prober of a session is asked with the count at which the session stands. -/
theorem answer?_replyAt {s : Session} {first : Reply} {others : List Reply}
    (hprober : s.prober = .script first others) {request : Request}
    (hasks : request.asksProber = true) :
    request.answer? s.host s.destination (Prober.replyAt first others s.probes) =
      some (s.answerRequest request).answer := by
  have hroute : s.route.result = Prober.replyAt first others s.probes := by
    rw [route_eq, hprober]
    rfl
  cases request with
  | resolve =>
    simp [Request.answer?, answerRequest_resolve, Report.ofRun, hroute, Resolution.result_source]
  | check verify =>
    simp [Request.answer?, answerRequest_check, Report.ofRun, hroute, Resolution.result_resolve]
  | _ => contradiction

/-- The host replies alike however often it was asked. -/
theorem answerRequest_congr {s t : Session} (hs : s.prober = .host) (ht : t.prober = .host)
    (hhost : s.host = t.host) (hdestination : s.destination = t.destination) :
    s.answerRequest = t.answerRequest := by
  funext request
  cases request with
  | resolve =>
    rw [s.answerRequest_resolve_of_host hs, t.answerRequest_resolve_of_host ht, hhost,
      hdestination]
  | check verify =>
    rw [s.answerRequest_check_of_host hs, t.answerRequest_check_of_host ht, answerRequest,
      answerRequest, hhost, hdestination]
  | destination => simp only [answerRequest, hdestination]
  | settings destination verify => cases destination <;> simp only [answerRequest, hhost]
  | standard => simp only [answerRequest, hhost]
  | owner ip => cases ip <;> simp only [answerRequest, hhost]
  | host next => rfl

/-! ## Requests that are left out -/

/-- A step is left in a session unless it is marked. Only on a passing step does a mark count. -/
def isLeft (step : Request × Bool) : Bool := !(step.2 && step.1.isPassing)

/-- The reports of the steps that are left are the same with and without the others. -/
theorem run_filter_isLeft (s : Session) (steps : List (Request × Bool)) :
    s.run ((steps.filter isLeft).map Prod.fst) =
      (((s.run (steps.map Prod.fst)).zip steps).filter fun p => isLeft p.2).map Prod.fst := by
  -- The induction is on the steps for every session that they can start from. A step that is left
  -- out does not change it, so the rest starts from the same session on both sides.
  induction steps generalizing s with
  | nil => rfl
  | cons step steps ih =>
    cases hleft : isLeft step with
    | true => simp [run, hleft, ih]
    | false =>
      have hpassing : step.1.isPassing = true := by
        rw [isLeft, Bool.not_eq_false', Bool.and_eq_true] at hleft
        exact hleft.2
      simp [run, hleft, ih, next_of_isPassing s hpassing]

/-! ## The questions of a session -/

/-- A session asks its prober once for every resolution of its own and for nothing else, and shows
its destination unchanged. A script replies to the questions in turn. Marked requests that are
passing can be left out: all other steps are reported as before. A session that asks the host
reports the same for the same request as long as the host is not replaced. -/
theorem run_asks_prober (d : Destination) (prober : Prober) (host : Host) :
    let s : Session := { destination := d, prober, host }
    (∀ before request after, ∃ report,
      let questions := (before ++ [request]).countP Request.asksProber
      (s.run (before ++ request :: after))[before.length]? = some (report, questions) ∧
      report.probed = (if request.asksProber then [d] else []) ∧
      (request = .destination → report.answer = .destination d) ∧
      ∀ first others, prober = .script first others → request.asksProber = true →
        ∃ reply, (first :: others)[min questions (first :: others).length - 1]? = some reply ∧
          request.answer? (hostAfter host before) d reply = some report.answer) ∧
    (∀ steps : List (Request × Bool),
      s.run ((steps.filter isLeft).map Prod.fst) =
        (((s.run (steps.map Prod.fst)).zip steps).filter fun p => isLeft p.2).map Prod.fst) ∧
    (prober = .host → ∀ before between after request, (∀ r ∈ between, r.host? = none) →
      request.host? = none → ∃ report count count',
        let reports := s.run (before ++ request :: (between ++ request :: after))
        reports[before.length]? = some (report, count) ∧
        reports[before.length + (between.length + 1)]? = some (report, count')) := by
  intro s
  refine ⟨?_, ?_, ?_⟩
  · intro before request after
    have hreport := getElem?_run_append s before after request
    have hcount : ((before.foldl next s).next request).probes =
        (before ++ [request]).countP Request.asksProber := by
      simp [s, foldl_next, next_eq, List.countP_append, List.countP_cons]
    rw [hcount] at hreport
    refine ⟨_, hreport, ?_, ?_, ?_⟩
    · simp [s, probed_answerRequest, foldl_next]
    · rintro rfl
      simp [s, answerRequest, foldl_next]
    · rintro first others rfl hasks
      -- The count grows behind the question, so this one has the number that follows it.
      have hquestion : (before ++ [request]).countP Request.asksProber =
          (before.foldl next s).probes + 1 := by
        rw [← hcount, next_of_asksProber _ hasks]
        rfl
      rw [hquestion]
      refine ⟨_, Prober.getElem?_replies first others _, ?_⟩
      have hanswer := answer?_replyAt (s := before.foldl next s) (by rw [foldl_next]) hasks
      simpa only [foldl_next] using hanswer
  · exact run_filter_isLeft s
  · rintro rfl before between after request hbetween hrequest
    have hfirst := getElem?_run_append s before (between ++ request :: after) request
    have hsecond := getElem?_run_append s (before ++ request :: between) after request
    -- Neither the request nor what stands behind it replaces the host.
    have hsame : ((before ++ request :: between).foldl next s).answerRequest =
        (before.foldl next s).answerRequest := by
      refine answerRequest_congr ?_ ?_ ?_ ?_
      all_goals simp only [foldl_next, s]
      rw [hostAfter_append, hostAfter_cons, hrequest, hostAfter_of_none hbetween, Option.getD_none]
    rw [hsame, List.append_assoc, List.cons_append, List.length_append, List.length_cons] at hsecond
    exact ⟨_, _, _, hfirst, hsecond⟩

/-- The third question is answered by the second of two replies, whatever was requested in between.
Asked for a route, a host that refuses its sockets does so before and behind another resolution. -/
theorem run_asks_prober_past_last_reply :
    (∃ report,
      ({ destination := default
         prober := .script (.ok (.wildcard .v6)) [.error (.localEndpoint (.other "gone"))]
         host := { socketName := .error 9 } : Session }.run
        [.resolve, .standard, .check true, .destination, .resolve])[4]? = some (report, 3) ∧
      report.answer = .address (.error (.localEndpoint (.other "gone")))) ∧
    ∃ report count count',
      let reports := ({ destination := default, prober := .host
                        host := { socket := .error 24, socketName := .error 9 } : Session }.run
        [.check true, .standard, .resolve, .check true])
      reports[0]? = some (report, count) ∧ reports[3]? = some (report, count') := by
  refine ⟨?_, ?_⟩
  · obtain ⟨report, hreport, -, -, hscript⟩ :=
      (run_asks_prober default
        (.script (.ok (.wildcard .v6)) [.error (.localEndpoint (.other "gone"))])
        { socketName := .error 9 }).1 [.resolve, .standard, .check true, .destination] .resolve []
    obtain ⟨reply, hreply, hanswer⟩ := hscript _ _ rfl rfl
    cases hreply
    exact ⟨report, hreport, (Option.some.inj hanswer).symm⟩
  · exact (run_asks_prober default .host { socket := .error 24, socketName := .error 9 }).2.2 rfl
      [] [.standard, .resolve] [] (.check true) (by decide) rfl

end Session
end Egress
