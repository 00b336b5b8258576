import Egress.Program
import Egress.Proofs.Endings
import Egress.Proofs.Spelling

/-!
# Outcomes — what a run of the program prints and exits with

A run prints the source address that the host selects, on a line of its own and on nothing else, or
it prints nothing and reports why. Main statement: the run succeeds exactly if the host answers
every call, its answer tells an address and no wildcard, and an interface that is up has this very
address where that was asked for. At which port and in which scope the host answers never counts.
-/

namespace Egress

/-! ## What the host has to answer -/

namespace Host

/-- An interface of the host that is up has exactly this address. -/
def Assigns (host : Host) (ip : Ip) : Prop :=
  ∃ i ∈ host.interfaces, i.isUp = true ∧ ∃ net ∈ i.nets, net.ip = ip

theorem owner?_ne_none_iff {host : Host} {address : SourceAddress} :
    host.owner? address ≠ none ↔ host.Assigns address.ip := by
  simp [owner?, Interface.owner?, Interface.owns, Interface.carries_iff, Assigns]

/-- The host gives this address for the destination, and has it if it has to be verified. -/
structure Resolves (host : Host) (s : Settings) (ip : Ip) : Prop where
  selects : host.Selects s.destination ip
  assigns : s.verify = true → host.Assigns ip

end Host

namespace Resolution

theorem exists_result_ofSettings_iff {host : Host} {s : Settings} {ip : Ip} :
    (∃ r, (ofSettings host s).result = .ok r ∧ r.address.ip = ip) ↔ host.Resolves s ip := by
  simp only [ofSettings, result_resolve_eq_ok_iff]
  constructor
  · rintro ⟨r, ⟨hselects, hinterface, hne⟩, rfl⟩
    refine ⟨hselects, fun hverify => ?_⟩
    have howner : r.interface = host.owner? r.address := by
      rw [hinterface, if_pos hverify]
    exact Host.owner?_ne_none_iff.1 (howner ▸ hne hverify)
  · rintro ⟨hselects, hassigns⟩
    obtain ⟨name, -, hname⟩ := hselects.named
    have hcanonical : ip.canonical = ip := by
      rw [← hname, Ip.canonical_canonical]
    -- What the host selects is canonical and specified, and so it is a source address.
    let address : SourceAddress := ⟨ip, hcanonical, hselects.specified⟩
    refine ⟨⟨address, if s.verify then host.owner? address else none⟩, ⟨hselects, rfl, ?_⟩, rfl⟩
    intro hverify
    rw [if_pos hverify]
    exact Host.owner?_ne_none_iff.2 (hassigns hverify)

end Resolution

/-! ## What a run leaves behind -/

namespace Program

/-- The program tells a verified resolution once more. -/
def closingNotices : Except Failure Resolution → List Notice
  | .ok r => r.interface.toList.map fun i => .verified i.name
  | .error _ => []

theorem resolution_eq (host : Host) (s : Settings) :
    let m := Resolution.ofSettings host s
    resolution host s = { m with notices := m.notices ++ closingNotices m.result } := by
  rw [resolution]
  generalize Resolution.ofSettings host s = m
  rcases m with ⟨result, calls, notices⟩
  cases result with
  | error failure => simp [Run.andThen, closingNotices]
  | ok r =>
    cases hinterface : r.interface with
    | none => simp [Run.andThen, Run.done, closingNotices, hinterface]
    | some i => simp [Run.andThen, Run.note, Run.done, closingNotices, hinterface]

theorem result_resolution (host : Host) (s : Settings) :
    (resolution host s).result = (Resolution.ofSettings host s).result := by
  rw [resolution_eq]

theorem calls_resolution (host : Host) (s : Settings) :
    (resolution host s).calls = (Resolution.ofSettings host s).calls := by
  rw [resolution_eq]

theorem report_ne_empty (d : Destination) (failure : Failure) : report d failure ≠ "" := by
  intro h
  -- The caption is in every report, whatever stands around it.
  have hhead := (String.append_eq_empty_iff.1 h).1
  have hcaption : "\n\nCaused by:\n" = "" := (String.append_eq_empty_iff.1 hhead).2
  exact absurd hcaption (by decide)

theorem newline_not_mem_text (ip : Ip) : '\n' ∉ ip.text.toList :=
  ip.not_mem_text (by decide) (by decide) (by decide)

variable {color : Bool} {threshold : Level} {d : Destination} {m : Run Resolution}

theorem finish_of_ok {r : Resolution} (h : m.result = .ok r) :
    (finish color threshold d m).code = 0 ∧
      (finish color threshold d m).stdout = r.address.text ++ "\n" := by
  simp [finish, h]

theorem finish_of_error {failure : Failure} (h : m.result = .error failure) :
    (finish color threshold d m).code = 1 ∧ (finish color threshold d m).stdout = "" ∧
      (finish color threshold d m).stderr ≠ "" := by
  simp [finish, h, report_ne_empty]

theorem calls_finish : (finish color threshold d m).calls = m.calls := by
  cases h : m.result <;> simp [finish, h]

/-- What stands behind the log: nothing, or the report of the failure. -/
def closing (d : Destination) (m : Run Resolution) : String :=
  match m.result with
  | .ok _ => ""
  | .error failure => report d failure

theorem stderr_finish :
    (finish color threshold d m).stderr =
      Event.log threshold color (m.notices.map Notice.event) ++ closing d m := by
  cases h : m.result <;> simp [finish, closing, h]

theorem run_of_read {host : Host} {arguments : List String} {options : CommandLine.Options}
    (h : CommandLine.read arguments = .ok (.run options)) :
    run host color arguments = finish color options.level options.settings.destination
      (resolution host options.settings) := by
  simp [run, h]

end Program

/-! ## What never counts -/

namespace Run

variable {α β : Type}

/-- The runs differ at most in the details that they report. -/
structure SameButDetails (m n : Run α) : Prop where
  result : m.result = n.result
  calls : m.calls = n.calls
  notices : m.notices.filter (!·.level.isDetail) = n.notices.filter (!·.level.isDetail)

namespace SameButDetails

theorem refl (m : Run α) : SameButDetails m m := ⟨rfl, rfl, rfl⟩

theorem andThen {m n : Run α} (h : SameButDetails m n) (f : α → Run β) :
    SameButDetails (m.andThen f) (n.andThen f) := by
  cases hn : n.result with
  | error failure =>
    have hm : m.result = .error failure := h.result.trans hn
    rw [andThen_of_error hm, andThen_of_error hn]
    exact ⟨rfl, h.calls, h.notices⟩
  | ok a =>
    have hm : m.result = .ok a := h.result.trans hn
    rw [andThen_of_ok hm, andThen_of_ok hn, h.calls]
    refine ⟨rfl, rfl, ?_⟩
    simp only [List.filter_append, h.notices]

/-- What comes behind the same beginning. -/
theorem andThen_congr (m : Run α) {f g : α → Run β} (h : ∀ a, SameButDetails (f a) (g a)) :
    SameButDetails (m.andThen f) (m.andThen g) := by
  cases hm : m.result with
  | error failure =>
    rw [andThen_of_error hm, andThen_of_error hm]
    exact refl _
  | ok a =>
    rw [andThen_of_ok hm, andThen_of_ok hm, (h a).calls]
    refine ⟨(h a).result, rfl, ?_⟩
    simp only [List.filter_append, (h a).notices]

end SameButDetails
end Run

namespace Host

/-- The host as it would be if it told the addresses of its sockets alone. -/
def withBareNames (host : Host) : Host :=
  { host with
    socketName := host.socketName.map fun name family => .ofIp 0 (name family).ip }

theorem sameButDetails_source (host : Host) (d : Destination) :
    (Resolution.source d (host.withBareNames.route d)).SameButDetails
      (Resolution.source d (host.route d)) := by
  simp only [Resolution.source, route, Run.bind_eq_andThen, Run.andThen_assoc]
  -- Only the last call has another answer.
  refine .andThen_congr _ fun _ => ?_
  refine .andThen_congr _ fun _ => ?_
  refine .andThen_congr _ fun _ => ?_
  refine .andThen_congr _ fun _ => ?_
  refine .andThen_congr _ fun _ => ?_
  cases hname : host.socketName with
  | error errno =>
    simp only [withBareNames, hname, Except.map]
    exact .refl _
  | ok name =>
    simp only [withBareNames, hname, Except.map, Run.ask_ok, Run.note, Run.andThen,
      Run.pure_eq_done, Run.done, Endpoint.ip_ofIp]
    cases SourceAddress.ofIp? (name d.family).ip with
    | none => exact ⟨rfl, rfl, rfl⟩
    | some address => exact ⟨rfl, rfl, rfl⟩

end Host

namespace Program

theorem sameButDetails_resolution (host : Host) (s : Settings) :
    (resolution host.withBareNames s).SameButDetails (resolution host s) := by
  have hsource := host.sameButDetails_source s.destination
  exact (hsource.andThen _).andThen _

/-- A threshold above the details does not let any of them through. -/
theorem log_eq_of_filter_eq {threshold : Level} (hthreshold : threshold.isDetail = false)
    {ns ms : List Notice}
    (h : ns.filter (!·.level.isDetail) = ms.filter (!·.level.isDetail)) (color : Bool) :
    Event.log threshold color (ns.map Notice.event) =
      Event.log threshold color (ms.map Notice.event) := by
  have habove : ∀ notice : Notice, threshold ≤ notice.level → notice.level.isDetail = false := by
    intro notice
    generalize notice.level = level
    revert hthreshold
    cases threshold <;> cases level <;> decide
  -- What the threshold lets through can be taken from the notices that are no details.
  have hfilter : ∀ ks : List Notice, Event.filter threshold (ks.map Notice.event) =
      Event.filter threshold ((ks.filter (!·.level.isDetail)).map Notice.event) := by
    intro ks
    simp only [Event.filter, List.filter_map, List.filter_filter]
    refine congrArg (List.map Notice.event) (List.filter_congr fun notice _ => ?_)
    by_cases hle : threshold ≤ notice.level
    · simp [Notice.event, hle, habove notice hle]
    · simp [Notice.event, hle]
  rw [Event.log, hfilter ns, h, ← hfilter ms, Event.log]

theorem finish_of_sameButDetails {m n : Run Resolution} (h : m.SameButDetails n) (color : Bool)
    (threshold : Level) (d : Destination) :
    (finish color threshold d m).code = (finish color threshold d n).code ∧
      (finish color threshold d m).stdout = (finish color threshold d n).stdout ∧
      (finish color threshold d m).calls = (finish color threshold d n).calls ∧
      (threshold.isDetail = false → finish color threshold d m = finish color threshold d n) := by
  have hlog : threshold.isDetail = false →
      Event.log threshold color (m.notices.map Notice.event) =
        Event.log threshold color (n.notices.map Notice.event) := by
    intro hthreshold
    exact log_eq_of_filter_eq hthreshold h.notices color
  cases hn : n.result with
  | error failure =>
    have hm : m.result = .error failure := h.result.trans hn
    simp only [finish, hm, hn, h.calls, true_and]
    intro hthreshold
    rw [hlog hthreshold]
  | ok r =>
    have hm : m.result = .ok r := h.result.trans hn
    simp only [finish, hm, hn, h.calls, true_and]
    intro hthreshold
    rw [hlog hthreshold]

/-! ## The outcome of a run -/

/-- A command line that asks for a run has it end well exactly if the host resolves the settings to
an address. The address is then printed on a line of its own and reads back; else nothing is
printed, and the failure is reported. Ports and scopes in the answer of the host make no difference,
but for the details that the log may show of it. -/
theorem run_outcome (host : Host) (color : Bool) (arguments : List String)
    (options : CommandLine.Options) (hread : CommandLine.read arguments = .ok (.run options)) :
    let output := run host color arguments
    let bare := run host.withBareNames color arguments
    (output.code = 0 ↔ ∃ ip, host.Resolves options.settings ip) ∧
    (∀ ip, host.Resolves options.settings ip →
      ∃ line, output.stdout = line ++ "\n" ∧ line = ip.text ∧ '\n' ∉ line.toList ∧
        Ip.ofText? line = some ip) ∧
    ((¬∃ ip, host.Resolves options.settings ip) →
      output.code = 1 ∧ output.stdout = "" ∧ output.stderr ≠ "") ∧
    bare.code = output.code ∧ bare.stdout = output.stdout ∧ bare.calls = output.calls ∧
    (options.level.isDetail = false → bare = output) := by
  intro output bare
  have houtput : output = finish color options.level options.settings.destination
      (resolution host options.settings) := by
    simp [output, run, hread]
  have hbare : bare = finish color options.level options.settings.destination
      (resolution host.withBareNames options.settings) := by
    simp [bare, run, hread]
  have hresult := result_resolution host options.settings
  -- If the host resolves the settings, the run prints the address,
  -- and if it does not, the run fails; the equivalence is the two together.
  have hfound : ∀ ip, host.Resolves options.settings ip →
      output.code = 0 ∧ output.stdout = ip.text ++ "\n" := by
    intro ip hresolves
    obtain ⟨r, hr, rfl⟩ := Resolution.exists_result_ofSettings_iff.2 hresolves
    rw [houtput]
    exact finish_of_ok (hresult.trans hr)
  have hlost : (¬∃ ip, host.Resolves options.settings ip) →
      output.code = 1 ∧ output.stdout = "" ∧ output.stderr ≠ "" := by
    intro hnone
    rw [houtput]
    cases hr : (Resolution.ofSettings host options.settings).result with
    | ok r => exact absurd ⟨_, Resolution.exists_result_ofSettings_iff.1 ⟨r, hr, rfl⟩⟩ hnone
    | error failure => exact finish_of_error (hresult.trans hr)
  refine ⟨?_, ?_, hlost, ?_⟩
  · constructor
    · intro hcode
      refine Classical.byContradiction fun hnone => ?_
      rw [(hlost hnone).1] at hcode
      contradiction
    · rintro ⟨ip, hresolves⟩
      exact (hfound ip hresolves).1
  · intro ip hresolves
    exact ⟨ip.text, (hfound ip hresolves).2, rfl, newline_not_mem_text ip, ip.ofText?_text⟩
  · rw [houtput, hbare]
    exact finish_of_sameButDetails (sameButDetails_resolution host options.settings) _ _ _

/-- An address that the host tells in its IPv6 form is looked for, and printed, as the IPv4 address
that it is. The entry that brings the address need not be the one that says the interface is up. -/
theorem run_outcome_of_mapped_address :
    CommandLine.read ["-v", "--probe=[::1%7]:09", "--verify"] =
      .ok (.run
        { probe := some ⟨.v6 ⟨[0, 0, 0, 0, 0, 0, 0, 1], rfl⟩ 9 7 0, by decide⟩
          verify := true
          verbose := 1 }) ∧
    (run
      { socketName := .ok fun _ => .v6 (.ofIpv4 ⟨10, 0, 0, 5⟩) 40000 3 0
        interfaceEntries := .ok
          [{ name := "eth0", flags := 1 },
            { name := "eth0", attachment := .address (.v4 ⟨10, 0, 0, 5⟩) none }] }
      false ["-v", "--probe=[::1%7]:09", "--verify"]).code = 0 := by
  refine ⟨rfl, (run_outcome _ _ _ _ rfl).1.2 ⟨.v4 ⟨10, 0, 0, 5⟩, ?_, ?_⟩⟩
  · exact ⟨rfl, rfl, rfl, ⟨_, rfl, by decide⟩, by decide⟩
  · intro _
    exact ⟨_, List.mem_cons_self, by decide, _, List.mem_cons_self, rfl⟩

end Program
end Egress
