import Egress.Proofs.FlowLabels
import Egress.Proofs.Outcomes
import Egress.Proofs.Sessions

/-!
# Entrances — three ways to the same resolution

A session resolves its own destination, settings bring theirs, and the program reads one from its
arguments or takes a standard one. Between a destination and the program stands its text, which does
not tell the flow label. Main statement: all three make the same calls and come to the same address,
or to the same failure, which the program reports.
-/

namespace Egress

/-! ## Arguments for a destination -/

namespace CommandLine

/-- The arguments that name a destination, and ask for verification where that is wanted. -/
def argumentsFor (d : Destination) (verify : Bool) : List String :=
  "--probe" :: d.text :: if verify then ["--verify"] else []

theorem dash_not_mem_text (d : Destination) : '-' ∉ d.text.toList := by
  rw [Destination.text, Endpoint.toList_text]
  exact d.endpoint.written_chars.not_mem (x := '-') (by decide) (by decide)

theorem settle_text (d : Destination) :
    ({ pending := .holding d.text } : Progress).settle =
      .ok { given := [.probe], probe := some d.withoutFlow } := by
  simp [Progress.settle, Progress.takeProbe, Destination.ofText_text]

/-- Whatever stands behind it, a printed destination is taken for the value that it is. -/
theorem Progress.read_probe (d : Destination) (rest : List String) :
    Progress.read {} (Token.ofArguments ("--probe" :: d.text :: rest)) =
      Progress.read { pending := .holding d.text } (Token.ofArguments rest) := by
  calc
    Progress.read {} (Token.ofArguments ("--probe" :: d.text :: rest))
        = Progress.read {} (.option .probe :: Token.ofArguments (d.text :: rest)) := rfl
    _ = Progress.read {} (.option .probe :: .word d.text :: Token.ofArguments rest) := by
          rw [Token.ofArguments_word fun h => dash_not_mem_text d (List.mem_of_mem_head? h)]
    _ = Progress.read { pending := .holding d.text } (Token.ofArguments rest) := rfl

/-- A printed destination reads as itself, less its flow label. -/
theorem read_argumentsFor (d : Destination) (verify : Bool) :
    read (argumentsFor d verify) = .ok (.run { probe := some d.withoutFlow, verify }) := by
  rw [read, argumentsFor, Progress.read_probe]
  -- The value is looked at when the next option is taken up, or at the end.
  cases verify with
  | false =>
    change Progress.finish _ = _
    rw [Progress.finish, settle_text]
    rfl
  | true =>
    change (Progress.takeOption _ .verify >>= Progress.finish) = _
    rw [Progress.takeOption, settle_text]
    rfl

end CommandLine

/-! ## What the program tells of a resolution -/

theorem Resolution.ofSettings_unverified (host : Host) (d : Destination) :
    let search := source d (host.route d)
    (ofSettings host { destination := d }).calls = search.calls ∧
      (ofSettings host { destination := d }).result.map Resolution.address = search.result := by
  intro search
  have hresolve : ofSettings host { destination := d } =
      search.andThen fun address => .done (.ok { address, interface := none }) := rfl
  cases h : search.result <;> simp [hresolve, Run.andThen, Run.done, Except.map, h]

namespace Program

theorem report_congr {d d' : Destination} {failure failure' : Failure} (hd : d.text = d'.text)
    (hfailure : failure.withoutFlow = failure'.withoutFlow) :
    report d failure = report d' failure' := by
  unfold report
  rw [hd, ← failure.cause?_withoutFlow, ← failure.message_withoutFlow, hfailure,
    failure'.cause?_withoutFlow, failure'.message_withoutFlow]

theorem message_infix_report (d : Destination) (failure : Failure) :
    failure.message.toList <:+: (report d failure).toList := by
  unfold report
  cases failure.cause? with
  | none =>
    simp only [String.toList_append]
    exact (List.infix_append _ _ _).trans (List.suffix_append _ _).isInfix
  | some cause =>
    simp only [String.toList_append]
    exact ((List.infix_append _ _ _).trans
      ((List.prefix_append _ _).trans (List.prefix_append _ _)).isInfix).trans
        (List.suffix_append _ _).isInfix

/-- The program, run with these arguments, does the same calls and comes to the same result. An
address is all that it prints then, and a failure is what it reports towards the destination. -/
structure Tells (host : Host) (color : Bool) (arguments : List String) (d : Destination)
    (calls : List Call) (result : Except Failure SourceAddress) : Prop where
  resolved : ∃ options, CommandLine.read arguments = .ok (.run options) ∧
    ((resolution host options.settings).result.map Resolution.address).mapError
      Failure.withoutFlow = result.mapError Failure.withoutFlow
  called : (run host color arguments).calls.map Call.text = calls.map Call.text
  succeeds : ∀ address, result = .ok address →
    (run host color arguments).code = 0 ∧
      (run host color arguments).stdout = address.text ++ "\n"
  fails : ∀ failure, result = .error failure →
    (run host color arguments).code = 1 ∧ (run host color arguments).stdout = "" ∧
      ∃ log, (run host color arguments).stderr = log ++ report d failure ∧
        failure.message.toList <:+: (report d failure).toList

/-- It is enough that the settings that are read lead to the same, up to flow labels. -/
theorem tells_of_read {host : Host} {color : Bool} {arguments : List String}
    {options : CommandLine.Options} {d : Destination} {calls : List Call}
    {result : Except Failure SourceAddress}
    (hread : CommandLine.read arguments = .ok (.run options))
    (htext : options.settings.destination.text = d.text)
    (hcalls : (Resolution.ofSettings host options.settings).calls.map Call.text =
      calls.map Call.text)
    (hresult : ((Resolution.ofSettings host options.settings).result.map
        Resolution.address).mapError Failure.withoutFlow =
      result.mapError Failure.withoutFlow) :
    Tells host color arguments d calls result := by
  have hrun := @run_of_read color host arguments options hread
  rw [← result_resolution] at hresult
  rw [← calls_resolution] at hcalls
  -- The two sides end alike: an error is never turned into an address by leaving out labels.
  constructor
  case resolved => exact ⟨options, hread, hresult⟩
  case called => rw [hrun, calls_finish, hcalls]
  case succeeds =>
    rintro address rfl
    cases hown : (resolution host options.settings).result with
    | error failure =>
      rw [hown] at hresult
      contradiction
    | ok r =>
      rw [hown, Except.map, Failure.mapError_withoutFlow_ok, Failure.mapError_withoutFlow_ok,
        Except.ok.injEq] at hresult
      rw [hrun, ← hresult]
      exact finish_of_ok hown
  case fails =>
    rintro failure rfl
    cases hown : (resolution host options.settings).result with
    | ok r =>
      rw [hown] at hresult
      contradiction
    | error own =>
      rw [hown, Except.map, Failure.mapError_withoutFlow_error,
        Failure.mapError_withoutFlow_error, Except.error.injEq] at hresult
      obtain ⟨hcode, hstdout, -⟩ :=
        @finish_of_error color options.level options.settings.destination _ _ hown
      have hclosing : closing options.settings.destination
          (resolution host options.settings) = report d failure := by
        simp only [closing, hown]
        exact report_congr htext hresult
      rw [hrun, stderr_finish, hclosing]
      exact ⟨hcode, hstdout, _, rfl, message_infix_report d failure⟩

/-- Settings that ask for no verification lead to what the search for a source address comes to. -/
theorem tells_of_read_unverified {host : Host} {color : Bool} {arguments : List String}
    {options : CommandLine.Options} {d : Destination}
    (hread : CommandLine.read arguments = .ok (.run options))
    (hsettings : options.settings = { destination := d }) :
    let search := Resolution.source d (host.route d)
    Tells host color arguments d search.calls search.result := by
  obtain ⟨hcalls, hresult⟩ := Resolution.ofSettings_unverified host d
  rw [← hsettings] at hcalls hresult
  exact tells_of_read hread (by rw [hsettings]) (congrArg _ hcalls) (congrArg _ hresult)

/-- A destination leads to the same address or failure, and to the same calls, whichever way it
comes in. The program told nothing takes the standard destination, and told `-6` that of IPv6. Any
session with this host can be asked to resolve for settings or towards the standard destination. -/
theorem entrances_agree (host : Host) (d : Destination) (verify color : Bool) (other : Session) :
    (∃ result calls,
      let session : Session := { destination := d, prober := .host, host }
      let checked := session.answerRequest (.check verify)
      let configured := { other with host }.answerRequest (.settings (.ok d) verify)
      checked.answer = .resolution result ∧ checked.calls = calls ∧
      configured.answer = .resolution result ∧ configured.calls = calls ∧
      Tells host color (CommandLine.argumentsFor d verify) d calls
        (result.map Resolution.address)) ∧
    (∃ result calls,
      let standard := { other with host }.answerRequest .standard
      standard.answer = .address result ∧ standard.calls = calls ∧
      Tells host color [] default calls result) ∧
    ∃ result calls,
      let session : Session := { destination := .standard .v6, prober := .host, host }
      let resolved := session.answerRequest .resolve
      resolved.answer = .address result ∧ resolved.calls = calls ∧
      Tells host color ["-6"] (.standard .v6) calls result := by
  refine ⟨?_, ?_, ?_⟩
  · refine ⟨(Resolution.ofSettings host { destination := d, verify }).result,
      (Resolution.ofSettings host { destination := d, verify }).calls, ?_⟩
    intro session checked configured
    have hchecked : checked =
        { session.answerRequest (.settings (.ok d) verify) with probed := [d] } :=
      session.answerRequest_check_of_host rfl verify
    refine ⟨by rw [hchecked]; rfl, by rw [hchecked]; rfl, rfl, rfl, ?_⟩
    -- What was read is the destination less its flow label, so the two differ in labels alone.
    have hsame := Resolution.withoutFlow_ofSettings host d verify
    refine tells_of_read (CommandLine.read_argumentsFor d verify) d.text_withoutFlow
      (Run.map_text_calls_of_withoutFlow_eq hsame) ?_
    exact Run.mapError_result_of_withoutFlow_eq hsame Resolution.address
  · have hread : CommandLine.read [] = .ok (.run {}) := rfl
    exact ⟨_, _, rfl, rfl, tells_of_read_unverified hread rfl⟩
  · have hread : CommandLine.read ["-6"] = .ok (.run { ipv6 := true }) := rfl
    refine ⟨_, _, ?_, ?_, tells_of_read_unverified hread rfl⟩
    · rw [Session.answerRequest_resolve_of_host _ rfl]
      rfl
    · rw [Session.answerRequest_resolve_of_host _ rfl]
      rfl

end Program
end Egress
