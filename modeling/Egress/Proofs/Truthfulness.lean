import Egress.Proofs.Levels
import Egress.Proofs.Replies
import Egress.Proofs.Verbosity
import Mathlib.Data.List.Basic

/-!
# Truthfulness — what the log claims, and that it is so

An event may say which address traffic leaves from, which interface an address is assigned to, or
that it is assigned to none. Main statement: each of these is said exactly if it is so, and then
once, whatever is asked of a session or of the program. So a run that ends well says nothing unless
more log output is asked for, and one that fails always says something.
-/

namespace Egress

/-! ## Events that claim something -/

namespace Event

/-- The event says where outbound traffic leaves from. -/
def TellsSource (e : Event) : Prop :=
  e.level = .info ∧ "Outbound traffic leaves from ".toList <+: e.message.toList

instance (e : Event) : Decidable e.TellsSource := inferInstanceAs (Decidable (_ ∧ _))

/-- The resolution says what an address is assigned to. The search through the interfaces has a
message of the same words, but it is a detail. -/
def TellsOwner (e : Event) : Prop :=
  e.level = .info ∧ e.source = Notice.resolverSource ∧
    " is assigned to ".toList <:+: e.message.toList

instance (e : Event) : Decidable e.TellsOwner := inferInstanceAs (Decidable (_ ∧ _))

/-- The events say where traffic leaves from exactly if that was found, name an interface exactly if
it was assigned, and warn exactly if there was none to be found; each once, and of the address that
it is about. -/
structure Truthful (es : List Event) (found : Option SourceAddress)
    (assigned : Option (SourceAddress × Interface)) (unowned : Option SourceAddress) : Prop where
  source : (es.filter fun e => e.TellsSource) = found.toList.map fun address =>
    ⟨.info, Notice.resolverSource, "Outbound traffic leaves from " ++ address.text⟩
  owner : (es.filter fun e => e.TellsOwner) = assigned.toList.map fun (address, i) =>
    ⟨.info, Notice.resolverSource, address.text ++ " is assigned to " ++ i.name⟩
  warning : (es.filter fun e => e.level = .warn) = unowned.toList.map fun address =>
    ⟨.warn, Notice.interfaceSource,
      address.text ++ " is not assigned to any interface that is up"⟩
  no_error : ∀ e ∈ es, e.level ≠ .error

/-- Without warnings and errors, a threshold as high as these lets nothing through. -/
theorem log_eq_empty {es : List Event} {threshold : Level} (hthreshold : .warn ≤ threshold)
    (hwarning : (es.filter fun e => e.level = .warn) = []) (herror : ∀ e ∈ es, e.level ≠ .error)
    (color : Bool) : log threshold color es = "" := by
  have hbelow : ∀ level : Level, level ≠ .warn → level ≠ .error → ¬threshold ≤ level := by
    intro level
    revert hthreshold
    cases threshold <;> cases level <;> decide
  have hfilter : filter threshold es = [] := by
    simp only [filter, List.filter_eq_nil_iff, decide_eq_true_eq] at hwarning ⊢
    intro e he
    exact hbelow e.level (hwarning e he) (herror e he)
  rw [log, hfilter]
  rfl

end Event

/-! ## Notices that claim something -/

namespace Notice

theorem message_event_leaving (address : SourceAddress) :
    (leaving address).event.message.toList =
      "Outbound traffic leaves from ".toList ++ address.text.toList :=
  String.toList_append

theorem message_event_assigned (address : SourceAddress) (name : String) :
    (assigned address name).event.message.toList =
      address.text.toList ++ " is assigned to ".toList ++ name.toList := by
  rw [← String.toList_append, ← String.toList_append]
  rfl

theorem tellsSource_event_leaving (address : SourceAddress) :
    (leaving address).event.TellsSource := by
  refine ⟨rfl, ?_⟩
  rw [message_event_leaving]
  exact List.prefix_append _ _

/-- An address does not begin as the words do. -/
theorem not_tellsSource_event_assigned (address : SourceAddress) (name : String) :
    ¬(assigned address name).event.TellsSource := by
  rintro ⟨-, hwords⟩
  rw [message_event_assigned, List.append_assoc] at hwords
  have hletter : 'O' ∉ address.text.toList :=
    address.ip.not_mem_text (by decide) (by decide) (by decide)
  cases htext : address.text.toList with
  | nil =>
    rw [htext] at hwords
    simp at hwords
  | cons c cs =>
    rw [htext] at hletter hwords
    obtain ⟨hc, -⟩ : 'O' = c ∧ _ := by simpa using hwords
    exact hletter (hc ▸ List.mem_cons_self)

theorem tellsOwner_event_assigned (address : SourceAddress) (name : String) :
    (assigned address name).event.TellsOwner := by
  refine ⟨rfl, rfl, ?_⟩
  rw [message_event_assigned]
  exact List.infix_append _ _ _

theorem not_tellsOwner_event_leaving (address : SourceAddress) :
    ¬(leaving address).event.TellsOwner := by
  rintro ⟨-, -, hwords⟩
  rw [message_event_leaving] at hwords
  -- One letter of the words is neither among the others nor in an address.
  have hletter : 'g' ∉ address.text.toList :=
    address.ip.not_mem_text (by decide) (by decide) (by decide)
  rcases List.mem_append.1 (hwords.subset (by decide : 'g' ∈ " is assigned to ".toList)) with h | h
  · exact absurd h (by decide)
  · exact hletter h

/-- A warning does not claim anything else. -/
theorem not_tells_event_unowned (address : SourceAddress) :
    ¬(unowned address).event.TellsSource ∧ ¬(unowned address).event.TellsOwner := by
  constructor
  · rintro ⟨hlevel, -⟩
    contradiction
  · rintro ⟨hlevel, -⟩
    contradiction

theorem level_event_ne_error (n : Notice) : n.event.level ≠ .error := by
  cases n <;> simp [event, level]

/-- What is left of the notices without the details. -/
def outline (ns : List Notice) : List Notice := ns.filter (!·.level.isDetail)

theorem outline_append (ns ms : List Notice) : outline (ns ++ ms) = outline ns ++ outline ms :=
  List.filter_append _ _

/-- A choice of events that takes no details can be made when these are left out. -/
theorem filter_map_event {p : Event → Prop} [DecidablePred p]
    (hp : ∀ e, p e → e.level.isDetail = false) (ns : List Notice) :
    ((ns.map event).filter fun e => p e) = ((outline ns).map event).filter fun e => p e := by
  rw [outline, List.filter_map, List.filter_map, List.filter_filter]
  refine congrArg (List.map event) (List.filter_congr fun n _ => ?_)
  by_cases h : p n.event
  · have hdetail : n.level.isDetail = false := hp n.event h
    simp [h, hdetail]
  · simp [h]

/-- The notices that claim this and nothing else. -/
def claims (found : Option SourceAddress) (assigned : Option (SourceAddress × Interface))
    (unowned : Option SourceAddress) : List Notice :=
  found.toList.map .leaving ++ assigned.toList.map (fun (address, i) => .assigned address i.name) ++
    unowned.toList.map .unowned

/-- A choice that goes by the kind of a claim keeps all claims of a kind or none. -/
theorem filter_map_event_claims (p : Event → Prop) [DecidablePred p]
    {ofFound ofAssigned ofUnowned : Bool}
    (hfound : ∀ address, decide (p (leaving address).event) = ofFound)
    (hassigned : ∀ address name, decide (p (assigned address name).event) = ofAssigned)
    (hunowned : ∀ address, decide (p (unowned address).event) = ofUnowned)
    (found : Option SourceAddress) (assigned : Option (SourceAddress × Interface))
    (unowned : Option SourceAddress) :
    (((claims found assigned unowned).map event).filter fun e => p e) =
      (claims (if ofFound then found else none) (if ofAssigned then assigned else none)
        (if ofUnowned then unowned else none)).map event := by
  simp only [claims, List.map_append, List.filter_append, List.filter_map, Function.comp_def,
    hfound, hassigned, hunowned]
  cases ofFound <;> cases ofAssigned <;> cases ofUnowned <;> simp

/-- The notices that are no details decide what the events claim. -/
theorem truthful_of_outline {ns : List Notice} {found : Option SourceAddress}
    {assigned : Option (SourceAddress × Interface)} {unowned : Option SourceAddress}
    (h : outline ns = claims found assigned unowned) :
    Event.Truthful (ns.map event) found assigned unowned := by
  constructor
  case source =>
    rw [filter_map_event (fun e he => by rw [he.1]; rfl), h,
      filter_map_event_claims Event.TellsSource
        (fun a => decide_eq_true (tellsSource_event_leaving a))
        (fun a name => decide_eq_false (not_tellsSource_event_assigned a name))
        (fun a => decide_eq_false (not_tells_event_unowned a).1)]
    cases found <;> rfl
  case owner =>
    rw [filter_map_event (fun e he => by rw [he.1]; rfl), h,
      filter_map_event_claims Event.TellsOwner
        (fun a => decide_eq_false (not_tellsOwner_event_leaving a))
        (fun a name => decide_eq_true (tellsOwner_event_assigned a name))
        (fun a => decide_eq_false (not_tells_event_unowned a).2)]
    cases assigned <;> rfl
  case warning =>
    rw [filter_map_event (fun e he => by rw [he]; rfl), h,
      filter_map_event_claims (fun e => e.level = .warn) (fun _ => rfl) (fun _ _ => rfl)
        (fun _ => rfl)]
    cases unowned <;> rfl
  case no_error =>
    intro e he
    obtain ⟨n, -, rfl⟩ := List.mem_map.1 he
    exact n.level_event_ne_error

end Notice

/-! ## Searches and resolutions -/

namespace Host

/-- The address, if it was looked for, and no interface of the host that is up has it. -/
def unowned? (host : Host) (looked : Option SourceAddress) : Option SourceAddress :=
  looked.filter fun address => (host.owner? address).isNone

/-- A route is told in details alone. -/
theorem outline_route (host : Host) (d : Destination) :
    Notice.outline (host.route d).notices = [] := by
  have hrouted := host.routed_route d
  generalize host.route d = m at hrouted ⊢
  cases hrouted with
  | noSocket => rfl
  | unbound => rfl
  | unconnected => rfl
  | unnamed => rfl
  | answered => rfl

end Host

namespace Resolution

variable {d : Destination} {route : Run Endpoint}

/-- The interface that a resolution returns, with the address that is assigned to it. -/
def assigned? : Except Failure Resolution → Option (SourceAddress × Interface)
  | .ok r => r.interface.map fun i => (r.address, i)
  | .error _ => none

theorem outline_source (hroute : Notice.outline route.notices = []) :
    Notice.outline (source d route).notices =
      Notice.claims (source d route).result.toOption none none := by
  have hsourced := sourced_source d route
  generalize source d route = m at hsourced ⊢
  cases hsourced with
  | unrouted => exact hroute
  | unspecified => exact hroute
  | @found via address =>
    change Notice.outline (route.notices ++ [.leaving address]) = [.leaving address]
    rw [Notice.outline_append, hroute]
    rfl

theorem outline_owner (host : Host) (address : SourceAddress) :
    Notice.outline (owner host address).notices =
      Notice.claims none none (host.unowned? (some address)) := by
  cases howner : host.owner? address with
  | none =>
    simp only [owner, Host.unowned?, Option.filter, howner]
    rfl
  | some i =>
    simp only [owner, Host.unowned?, Option.filter, howner]
    rfl

/-- What was found is told before its owner is looked for, and is so whatever comes of that. -/
theorem outline_resolve (host : Host) (hroute : Notice.outline route.notices = [])
    (verify : Bool) :
    let found := (source d route).result.toOption
    Notice.outline (resolve host d route verify).notices =
      Notice.claims found (assigned? (resolve host d route verify).result)
        (host.unowned? (if verify then found else none)) := by
  have hsource := outline_source (d := d) hroute
  have hresolved := resolved_resolve host d route verify
  generalize resolve host d route verify = m at hresolved ⊢
  cases hresolved with
  | unfound hfound =>
    simp only [hsource, hfound]
    cases verify <;> rfl
  | unverified hfound =>
    simp only [hsource, hfound]
    rfl
  | unassigned hfound howner =>
    simp only [Notice.outline_append, hsource, hfound, Except.toOption, if_true, Host.unowned?,
      Option.filter, howner]
    rfl
  | assigned hfound howner =>
    simp only [Notice.outline_append, hsource, hfound, Except.toOption, if_true, Host.unowned?,
      Option.filter, howner]
    rfl

/-- An address is without an owner just if verification fails for it. -/
theorem unowned?_eq_some_iff {host : Host} {verify : Bool} {address : SourceAddress} :
    let found := (source d route).result.toOption
    let looked := if verify then found else none
    host.unowned? looked = some address ↔
      looked = some address ∧
        (resolve host d route verify).result = .error (.unassigned address.ip) := by
  intro found looked
  rw [Host.unowned?, Option.filter_eq_some_iff]
  refine and_congr_right fun hlooked => ?_
  cases verify with
  | false => contradiction
  | true =>
    have hsome : (source d route).result.toOption = some address := hlooked
    have hresolved := resolved_resolve host d route true
    generalize resolve host d route true = m at hresolved ⊢
    cases hresolved with
    | unfound hfound => simp [hfound, Except.toOption] at hsome
    | unassigned hfound howner =>
      obtain rfl := Option.some.inj (hfound ▸ hsome)
      simp [howner]
    | assigned hfound howner =>
      obtain rfl := Option.some.inj (hfound ▸ hsome)
      simp [howner]

/-- A resolution comes to what was found, unless that has no owner where it needs one. -/
theorem found_of_resolve {host : Host} {verify : Bool} :
    let found := (source d route).result.toOption
    (∀ r, (resolve host d route verify).result = .ok r → found = some r.address) ∧
      ∀ failure, (resolve host d route verify).result = .error failure →
        found = host.unowned? (if verify then found else none) := by
  intro found
  have hresolved := resolved_resolve host d route verify
  generalize resolve host d route verify = m at hresolved ⊢
  cases hresolved with
  | unfound hfound =>
    refine ⟨fun r h => by contradiction, fun failure h => ?_⟩
    simp only [found, hfound]
    cases verify <;> rfl
  | unverified hfound =>
    refine ⟨fun r h => ?_, fun failure h => by contradiction⟩
    cases h
    simp only [found, hfound]
    rfl
  | unassigned hfound howner =>
    refine ⟨fun r h => by contradiction, fun failure h => ?_⟩
    simp [found, hfound, Except.toOption, Host.unowned?, Option.filter, howner]
  | assigned hfound howner =>
    refine ⟨fun r h => ?_, fun failure h => by contradiction⟩
    cases h
    simp only [found, hfound]
    rfl

end Resolution

/-! ## Requests of a session -/

namespace Session

variable (s : Session)

/-- The search for a source address that a request leads to. -/
def search? : Request → Option (Run SourceAddress)
  | .resolve => some (Resolution.source s.destination s.route)
  | .check _ => some (Resolution.source s.destination s.route)
  | .settings (.ok destination) _ =>
    some (Resolution.source destination (s.host.route destination))
  | .standard => some (Resolution.source default (s.host.route default))
  | _ => none

/-- The source address that is found for a request. -/
def found? (request : Request) : Option SourceAddress :=
  (s.search? request).bind fun m => m.result.toOption

/-- The address whose owner is looked for. -/
def looked? (request : Request) : Option SourceAddress :=
  match request with
  | .check verify => if verify then s.found? request else none
  | .settings _ verify => if verify then s.found? request else none
  | .owner (.ok ip) => SourceAddress.ofIp? ip
  | _ => none

def Answer.assigned? : Answer → Option (SourceAddress × Interface)
  | .resolution result => Resolution.assigned? result
  | _ => none

theorem outline_route : Notice.outline s.route.notices = [] := by
  rw [notices_route]
  cases s.prober with
  | host => exact s.host.outline_route s.destination
  | script first others => rfl

theorem outline_answerRequest (request : Request) :
    Notice.outline (s.answerRequest request).notices =
      Notice.claims (s.found? request) (s.answerRequest request).answer.assigned?
        (s.host.unowned? (s.looked? request)) := by
  cases request with
  | destination => rfl
  | resolve =>
    rw [answerRequest_resolve]
    exact Resolution.outline_source s.outline_route
  | check verify =>
    rw [answerRequest_check]
    exact Resolution.outline_resolve s.host s.outline_route verify
  | settings destination verify =>
    cases destination with
    | ok destination =>
      exact Resolution.outline_resolve s.host (s.host.outline_route destination) verify
    | error why => cases verify <;> rfl
  | standard => exact Resolution.outline_source (s.host.outline_route default)
  | owner ip =>
    cases ip with
    | error why => rfl
    | ok ip =>
      cases haddress : SourceAddress.ofIp? ip with
      | none =>
        simp only [answerRequest, looked?, haddress]
        rfl
      | some address =>
        simp only [answerRequest, looked?, haddress]
        exact Resolution.outline_owner s.host address
  | host => rfl

/-- A request warns of an address just if it fails for it, or is answered that it has no owner. -/
theorem unowned?_looked?_eq_some_iff (request : Request) {address : SourceAddress} :
    s.host.unowned? (s.looked? request) = some address ↔
      s.looked? request = some address ∧
        ((s.answerRequest request).answer = .resolution (.error (.unassigned address.ip)) ∨
          (s.answerRequest request).answer = .owner none) := by
  cases request with
  | check verify =>
    have hchecked := @Resolution.unowned?_eq_some_iff s.destination s.route s.host verify address
    simpa [answerRequest_check, Report.ofRun, looked?, found?, search?] using hchecked
  | settings destination verify =>
    cases destination with
    | ok destination =>
      have hchecked := @Resolution.unowned?_eq_some_iff destination (s.host.route destination)
        s.host verify address
      simpa [answerRequest, Report.ofRun, Resolution.ofSettings, looked?, found?, search?]
        using hchecked
    | error why => cases verify <;> simp [looked?, found?, search?, Host.unowned?]
  | owner ip =>
    cases ip with
    | error why => simp [looked?, Host.unowned?]
    | ok ip =>
      rw [Host.unowned?, Option.filter_eq_some_iff]
      refine and_congr_right fun hlooked => ?_
      have haddress : SourceAddress.ofIp? ip = some address := hlooked
      simp [answerRequest, haddress, Report.ofRun]
  | _ => simp [looked?, Host.unowned?]

/-- What was found is what is answered, unless it has no owner where it needs one. -/
theorem found?_of_answer (request : Request) :
    let answer := (s.answerRequest request).answer
    (∀ result, answer = .address result → s.found? request = result.toOption) ∧
      (∀ r, answer = .resolution (.ok r) → s.found? request = some r.address) ∧
      ∀ failure, answer = .resolution (.error failure) →
        s.found? request = s.host.unowned? (s.looked? request) := by
  cases request with
  | destination => simp [answerRequest]
  | resolve => simp [answerRequest_resolve, Report.ofRun, found?, search?]
  | check verify =>
    have hfound := @Resolution.found_of_resolve s.destination s.route s.host verify
    simpa [answerRequest_check, Report.ofRun, looked?, found?, search?] using hfound
  | settings destination verify =>
    cases destination with
    | error why => simp [answerRequest]
    | ok destination =>
      have hfound :=
        @Resolution.found_of_resolve destination (s.host.route destination) s.host verify
      simpa [answerRequest, Report.ofRun, Resolution.ofSettings, looked?, found?, search?]
        using hfound
  | standard => simp [answerRequest, Report.ofRun, found?, search?]
  | owner ip =>
    cases ip with
    | error why => simp [answerRequest]
    | ok ip =>
      cases haddress : SourceAddress.ofIp? ip <;> simp [answerRequest, haddress, Report.ofRun]
  | host => simp [answerRequest]

end Session

/-! ## What the program says -/

namespace CommandLine

/-- Without `-v`, nothing below a warning is told. -/
theorem warn_le_level_of_read {arguments : List String} {options : Options}
    (hread : read arguments = .ok (.run options))
    (hverbose : .option .verbose ∉ Token.ofArguments arguments) : .warn ≤ options.level := by
  have hcount : options.verbose = 0 := by
    rw [verbose_of_read hread, List.count_eq_zero_of_not_mem hverbose]
    rfl
  rw [Options.level, hcount]
  cases options.quiet <;> decide

end CommandLine

namespace Program

/-- The notice of the program itself is a detail. -/
theorem outline_resolution (host : Host) (settings : Settings) :
    Notice.outline (resolution host settings).notices =
      Notice.outline (Resolution.ofSettings host settings).notices := by
  have hdetail : ∀ result, Notice.outline (closingNotices result) = [] := by
    intro result
    cases result with
    | error failure => rfl
    | ok r =>
      cases hinterface : r.interface with
      | none => simp only [closingNotices, hinterface]; rfl
      | some i => simp only [closingNotices, hinterface]; rfl
  rw [resolution_eq, Notice.outline_append, hdetail, List.append_nil]

theorem outline_resolution_eq_claims (host : Host) (settings : Settings) :
    let d := settings.destination
    let found := (Resolution.source d (host.route d)).result.toOption
    Notice.outline (resolution host settings).notices =
      Notice.claims found (Resolution.assigned? (resolution host settings).result)
        (host.unowned? (if settings.verify then found else none)) := by
  intro d found
  rw [outline_resolution, result_resolution]
  exact Resolution.outline_resolve host (host.outline_route d) settings.verify

/-- Verification of a run fails just for the address that is warned of. -/
theorem unowned?_eq_some_iff {host : Host} {settings : Settings} {address : SourceAddress} :
    let d := settings.destination
    let found := (Resolution.source d (host.route d)).result.toOption
    let looked := if settings.verify then found else none
    host.unowned? looked = some address ↔
      looked = some address ∧
        (resolution host settings).result = .error (.unassigned address.ip) := by
  rw [result_resolution]
  exact Resolution.unowned?_eq_some_iff

theorem log_eq_empty_of_ok {host : Host} {settings : Settings} {r : Resolution}
    (hresult : (resolution host settings).result = .ok r) {threshold : Level}
    (hthreshold : .warn ≤ threshold) (color : Bool) :
    Event.log threshold color ((resolution host settings).notices.map Notice.event) = "" := by
  have htruthful := Notice.truthful_of_outline (outline_resolution_eq_claims host settings)
  refine Event.log_eq_empty hthreshold ?_ htruthful.no_error color
  rw [htruthful.warning]
  -- Only a failure comes with a warning.
  cases hunowned : host.unowned? (if settings.verify then _ else none) with
  | none => rfl
  | some address =>
    have hfailure := (unowned?_eq_some_iff.1 hunowned).2
    rw [hresult] at hfailure
    contradiction

/-- What is said on standard error: nothing, if a run ends well and `-v` was not given, and always
something if it fails. -/
theorem stderr_of_code (host : Host) (color : Bool) (arguments : List String) :
    let output := run host color arguments
    (output.code = 0 → .option .verbose ∉ CommandLine.Token.ofArguments arguments →
      output.stderr = "") ∧
    (output.code ≠ 0 → output.stderr ≠ "") := by
  intro output
  cases hread : CommandLine.read arguments with
  | error e =>
    have houtput : output = { code := 2, stdout := "", stderr := e.printed color } := by
      simp [output, run, hread]
    simp [houtput, e.printed_ne_empty]
  | ok command =>
  cases command with
  | help => simp [output, run, hread]
  | version => simp [output, run, hread]
  | run options =>
    have houtput : output = finish color options.level options.settings.destination
        (resolution host options.settings) := run_of_read hread
    rw [houtput]
    cases hresult : (resolution host options.settings).result with
    | error failure =>
      obtain ⟨hcode, -, hstderr⟩ :=
        @finish_of_error color options.level options.settings.destination _ _ hresult
      exact ⟨fun hzero => by simp [hcode] at hzero, fun _ => hstderr⟩
    | ok r =>
      have hcode := (@finish_of_ok color options.level options.settings.destination _ _ hresult).1
      refine ⟨fun _ hverbose => ?_, fun hne => absurd hcode hne⟩
      have hlevel := CommandLine.warn_le_level_of_read hread hverbose
      rw [stderr_finish, log_eq_empty_of_ok hresult hlevel]
      simp [closing, hresult]

end Program

/-! ## The truth of the log -/

/-- At every step of a session, the events say where traffic leaves from exactly if the resolution
came to a source address, and that it is assigned to an interface exactly if this is returned. They
warn exactly if an owner was looked for and not found, so that verification failed or the answer has
no interface. Each is said once, and nothing is an error. The same holds of the events of the
program, of which standard error has those that the level lets through. Behind a run that ends well
and was not asked for more it has none, and behind one that fails it is not empty. -/
theorem log_tells_truth :
    (∀ (s : Session) (before : List Session.Request) (request : Session.Request)
      (after : List Session.Request), ∃ report count,
      let here := before.foldl Session.next s
      let found := here.found? request
      let looked := here.looked? request
      let unowned := here.host.unowned? looked
      (s.run (before ++ request :: after))[before.length]? = some (report, count) ∧
      Event.Truthful (report.notices.map Notice.event) found report.answer.assigned? unowned ∧
      (∀ result, report.answer = .address result → found = result.toOption) ∧
      (∀ r, report.answer = .resolution (.ok r) → found = some r.address) ∧
      (∀ failure, report.answer = .resolution (.error failure) → found = unowned) ∧
      ∀ address, unowned = some address ↔ looked = some address ∧
        (report.answer = .resolution (.error (.unassigned address.ip)) ∨
          report.answer = .owner none)) ∧
    ∀ (host : Host) (color : Bool) (arguments : List String),
      let output := Program.run host color arguments
      (∀ options, CommandLine.read arguments = .ok (.run options) →
        let d := options.settings.destination
        let m := Program.resolution host options.settings
        let events := m.notices.map Notice.event
        let found := (Resolution.source d (host.route d)).result.toOption
        let looked := if options.settings.verify then found else none
        let unowned := host.unowned? looked
        Event.Truthful events found (Resolution.assigned? m.result) unowned ∧
        (∀ address, unowned = some address ↔
          looked = some address ∧ m.result = .error (.unassigned address.ip)) ∧
        output.stderr = Event.log options.level color events ++ Program.closing d m) ∧
      (output.code = 0 → .option .verbose ∉ CommandLine.Token.ofArguments arguments →
        output.stderr = "") ∧
      (output.code ≠ 0 → output.stderr ≠ "") := by
  refine ⟨fun s before request after => ?_, fun host color arguments => ?_⟩
  · have hreport := s.getElem?_run_append before after request
    generalize before.foldl Session.next s = here at hreport ⊢
    have htruthful := Notice.truthful_of_outline (here.outline_answerRequest request)
    obtain ⟨hsearched, hresolved, hfailed⟩ := here.found?_of_answer request
    exact ⟨_, _, hreport, htruthful, hsearched, hresolved, hfailed,
      fun address => here.unowned?_looked?_eq_some_iff request⟩
  · refine ⟨fun options hread => ?_, Program.stderr_of_code host color arguments⟩
    have houtline := Program.outline_resolution_eq_claims host options.settings
    refine ⟨Notice.truthful_of_outline houtline, fun address => Program.unowned?_eq_some_iff, ?_⟩
    rw [Program.run_of_read hread, Program.stderr_finish]

/-- A failed verification that is only replied is not warned of. A run that verifies says nothing.
One that finds no interface has warned once, and if it is quiet it still says why it failed. -/
theorem log_tells_truth_of_verifications :
    let failure : Failure := .unassigned (.v4 ⟨10, 0, 0, 5⟩)
    let host : Host :=
      { socketName := .ok fun _ => .v4 ⟨10, 0, 0, 5⟩ 40000
        interfaceEntries := .ok
          [{ name := "eth0", flags := 1, attachment := .address (.v4 ⟨10, 0, 0, 5⟩) none }] }
    let bare : Host := { host with interfaceEntries := .error 12 }
    let options : CommandLine.Options := { verify := true, quiet := true }
    let s : Session := { destination := default, prober := .script (.error failure) [], host }
    (∃ report count, (s.run [.standard, .check true])[1]? = some (report, count) ∧
      report.answer = .resolution (.error failure) ∧
      (report.notices.map Notice.event).filter (fun e => e.level = .warn) = []) ∧
    (Program.run host true ["--verify"]).stderr = "" ∧
    CommandLine.read ["--verify", "-q"] = .ok (.run options) ∧
    ((Program.resolution bare options.settings).notices.map Notice.event).filter
        (fun e => e.level = .warn) =
      [⟨.warn, Notice.interfaceSource,
        "10.0.0.5 is not assigned to any interface that is up"⟩] ∧
    (Program.run bare false ["--verify", "-q"]).stderr ≠ "" := by
  intro failure host bare options s
  have hread : CommandLine.read ["--verify", "-q"] = .ok (.run options) := rfl
  obtain ⟨hevents, -, hfails⟩ := log_tells_truth.2 bare false ["--verify", "-q"]
  refine ⟨?_, ?_, hread, ?_, hfails (by decide)⟩
  · obtain ⟨report, count, hreport, htruthful, -⟩ :=
      log_tells_truth.1 s [.standard] (.check true) []
    have hanswer : s.answerRequest (.check true) = report :=
      (Prod.mk.inj (Option.some.inj hreport)).1
    refine ⟨report, count, hreport, ?_, htruthful.warning⟩
    rw [← hanswer]
    rfl
  · exact (log_tells_truth.2 host true ["--verify"]).2.1 rfl (by decide)
  · exact (hevents options hread).1.warning.trans (by decide)

end Egress
