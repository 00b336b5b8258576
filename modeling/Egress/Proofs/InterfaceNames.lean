import Egress.Proofs.Lines
import Egress.Proofs.Owners
import Egress.Proofs.Replies

/-!
# InterfaceNames — what the names of interfaces can do

The host names its interfaces as it likes, and the names are told in the log. Main statement: a name
brings no character into the log at which a terminal does anything, and in colour the only escape
characters are those of the styles. As long as no name has a line end in it, the log has one line
for each event. Neither what a run prints nor its exit code depends on the names, as long as
different interfaces have different ones.
-/

namespace Egress

/-! ## Notices -/

theorem Endpoint.newline_not_mem_text (e : Endpoint) : '\n' ∉ e.text.toList := by
  rw [toList_text]
  exact e.written_chars.not_mem (by decide) (by decide)

namespace Notice

open Text

/-- The name of an interface that the notice tells. -/
def name? : Notice → Option String
  | .probing _ => none
  | .bound _ => none
  | .routed _ _ => none
  | .leaving _ => none
  | .checking _ _ => none
  | .owned _ name => some name
  | .unowned _ => none
  | .assigned _ name => some name
  | .verified name => some name

theorem all_isVisible_source (n : Notice) : n.event.source.toList.all isVisible = true := by
  have hsource : n.event.source = resolverSource ∨ n.event.source = routeSource ∨
      n.event.source = interfaceSource ∨ n.event.source = programSource := by
    cases n <;> simp [event, source]
  rcases hsource with h | h | h | h
  all_goals
    rw [h]
    decide

/-- The names of interfaces that are told. -/
def names (ns : List Notice) : List String := ns.filterMap name?

theorem names_append (ns ms : List Notice) : names (ns ++ ms) = names ns ++ names ms :=
  List.filterMap_append

/-- But for the name of an interface, a message is made of words, addresses and numbers. -/
theorem newline_not_mem_message {n : Notice} (h : ∀ name ∈ n.name?, '\n' ∉ name.toList) :
    '\n' ∉ n.event.message.toList := by
  have hnumber : ∀ k : Nat, '\n' ∉ (toString k).toList := by
    intro k
    have hdigits : (toString k).toList = Nat.toDigits 10 k := String.toList_ofList
    rw [hdigits]
    exact (numeral_toDigits (by decide) (by decide) k).not_mem (by decide) (by decide)
  -- Addresses are spelled without line ends, so that only names are left to ask about.
  cases n with
  | probing destination =>
    exact not_mem_append (by decide) destination.endpoint.newline_not_mem_text
  | bound bindPoint => exact not_mem_append (by decide) bindPoint.newline_not_mem_text
  | routed destination via =>
    exact not_mem_append (not_mem_append (not_mem_append (by decide)
      destination.endpoint.newline_not_mem_text) (by decide)) via.newline_not_mem_text
  | leaving address => exact not_mem_append (by decide) (Program.newline_not_mem_text address.ip)
  | checking address interfaces =>
    exact not_mem_append (not_mem_append (not_mem_append (not_mem_append (by decide)
      (Program.newline_not_mem_text address.ip)) (by decide)) (hnumber interfaces)) (by decide)
  | owned address name =>
    exact not_mem_append (not_mem_append (Program.newline_not_mem_text address.ip) (by decide))
      (h name rfl)
  | unowned address => exact not_mem_append (Program.newline_not_mem_text address.ip) (by decide)
  | assigned address name =>
    exact not_mem_append (not_mem_append (Program.newline_not_mem_text address.ip) (by decide))
      (h name rfl)
  | verified name => exact not_mem_append (by decide) (h name rfl)

theorem harmless_map_event (ns : List Notice) (threshold : Level) :
    Event.Harmless threshold (ns.map event) := by
  refine Event.harmless_of_sources (fun e he => ?_) threshold
  obtain ⟨n, -, rfl⟩ := List.mem_map.1 he
  exact n.all_isVisible_source

theorem lined_map_event {ns : List Notice} {known : List String} (hnames : names ns ⊆ known)
    (hlines : ∀ name ∈ known, '\n' ∉ name.toList) (threshold : Level) :
    Event.Lined threshold (ns.map event) := by
  refine Event.lined_of_messages (fun e he => ?_) (fun e he => ?_) threshold
  · obtain ⟨n, -, rfl⟩ := List.mem_map.1 he
    exact n.all_isVisible_source
  · obtain ⟨n, hn, rfl⟩ := List.mem_map.1 he
    refine newline_not_mem_message fun name hname => hlines name (hnames ?_)
    exact List.mem_filterMap.2 ⟨n, hn, hname⟩

end Notice

/-! ## Where names come from -/

namespace Host

/-- The names under which the host lists entries. -/
def names (host : Host) : List String :=
  match host.interfaceEntries with
  | .ok es => es.map (·.name)
  | .error _ => []

theorem name_mem_names_of_owner? {host : Host} {address : SourceAddress} {i : Interface}
    (h : host.owner? address = some i) : i.name ∈ host.names := by
  have hmem : i ∈ host.interfaces := (Interface.owns_of_owner? h).1
  cases hentries : host.interfaceEntries with
  | error errno => simp [interfaces, hentries] at hmem
  | ok es =>
    simp only [interfaces, hentries] at hmem
    -- The table has its names from the entries.
    have hname : i.name ∈ (Interface.table es).map (·.name) := List.mem_map_of_mem hmem
    rw [Interface.map_name_table, Interface.names, List.mem_eraseDups] at hname
    simpa only [names, hentries] using hname

theorem names_route (host : Host) (d : Destination) :
    Notice.names (host.route d).notices = [] := by
  have hrouted := host.routed_route d
  generalize host.route d = m at hrouted ⊢
  cases hrouted with
  | noSocket => rfl
  | unbound => rfl
  | unconnected => rfl
  | unnamed => rfl
  | answered => rfl

end Host

namespace Resolution

variable {d : Destination} {route : Run Endpoint}

theorem names_source (hroute : Notice.names route.notices = []) :
    Notice.names (source d route).notices = [] := by
  have hsourced := sourced_source d route
  generalize source d route = m at hsourced ⊢
  cases hsourced with
  | unrouted => exact hroute
  | unspecified => exact hroute
  | @found via address =>
    change Notice.names (route.notices ++ [.leaving address]) = []
    rw [Notice.names_append, hroute]
    rfl

theorem names_owner_subset (host : Host) (address : SourceAddress) :
    Notice.names (owner host address).notices ⊆ host.names := by
  cases howner : host.owner? address with
  | none =>
    simp only [owner, howner]
    exact List.nil_subset _
  | some i =>
    have hname := Host.name_mem_names_of_owner? howner
    simp only [owner, howner]
    exact List.cons_subset.2 ⟨hname, List.nil_subset _⟩

/-- Only the owner of an address is told by name. -/
theorem names_resolve_subset (host : Host) (hroute : Notice.names route.notices = [])
    (verify : Bool) : Notice.names (resolve host d route verify).notices ⊆ host.names := by
  have hsource := names_source (d := d) hroute
  have hresolved := resolved_resolve host d route verify
  generalize resolve host d route verify = m at hresolved ⊢
  cases hresolved with
  | unfound => exact hsource ▸ List.nil_subset _
  | unverified => exact hsource ▸ List.nil_subset _
  | unassigned =>
    rw [Notice.names_append, hsource]
    exact List.nil_subset _
  | assigned _ howner =>
    -- The search and the check behind it tell the same name.
    have hname := Host.name_mem_names_of_owner? howner
    rw [Notice.names_append, hsource]
    exact List.cons_subset.2 ⟨hname, List.cons_subset.2 ⟨hname, List.nil_subset _⟩⟩

/-- The interface of a resolution is one of the host's. -/
theorem name_mem_names_of_ofSettings {host : Host} {s : Settings} {r : Resolution}
    (h : (ofSettings host s).result = .ok r) : ∀ i ∈ r.interface, i.name ∈ host.names := by
  intro i hi
  have hinterface := (result_resolve_eq_ok_iff.1 h).2.1
  split at hinterface
  · exact Host.name_mem_names_of_owner? (hinterface ▸ hi)
  · rw [hinterface] at hi
    contradiction

end Resolution

namespace Session

variable (s : Session)

theorem names_route : Notice.names s.route.notices = [] := by
  rw [notices_route]
  cases s.prober with
  | host => exact s.host.names_route s.destination
  | script first others => rfl

theorem names_answerRequest_subset (request : Request) :
    Notice.names (s.answerRequest request).notices ⊆ s.host.names := by
  cases request with
  | destination => exact List.nil_subset _
  | resolve =>
    rw [answerRequest_resolve]
    exact (Resolution.names_source s.names_route) ▸ List.nil_subset _
  | check verify =>
    rw [answerRequest_check]
    exact Resolution.names_resolve_subset s.host s.names_route verify
  | settings destination verify =>
    cases destination with
    | ok destination =>
      exact Resolution.names_resolve_subset s.host (s.host.names_route destination) verify
    | error why => exact List.nil_subset _
  | standard => exact (Resolution.names_source (s.host.names_route default)) ▸ List.nil_subset _
  | owner ip =>
    cases ip with
    | error why => exact List.nil_subset _
    | ok ip =>
      cases haddress : SourceAddress.ofIp? ip with
      | none => simp [answerRequest, haddress, Notice.names]
      | some address =>
        simp only [answerRequest, haddress]
        exact Resolution.names_owner_subset s.host address
  | host => exact List.nil_subset _

end Session

namespace Program

theorem names_resolution_subset (host : Host) (s : Settings) :
    Notice.names (resolution host s).notices ⊆ host.names := by
  have hnames := Resolution.names_resolve_subset (d := s.destination) host
    (host.names_route s.destination) s.verify
  rw [resolution_eq, Notice.names_append]
  refine List.append_subset.2 ⟨hnames, fun name hname => ?_⟩
  -- The closing notices tell the interface of the result once more.
  cases hresult : (Resolution.ofSettings host s).result with
  | error failure =>
    rw [hresult] at hname
    contradiction
  | ok r =>
    rw [hresult] at hname
    obtain ⟨_, hnotice, hname⟩ := List.mem_filterMap.1 hname
    obtain ⟨i, hi, rfl⟩ := List.mem_map.1 hnotice
    obtain rfl := Option.some.inj hname
    exact Resolution.name_mem_names_of_ofSettings hresult i (Option.mem_toList.1 hi)

end Program

/-! ## Other names -/

namespace InterfaceEntry

def renamed (rename : String → String) (e : InterfaceEntry) : InterfaceEntry :=
  { e with name := rename e.name }

variable {es : List InterfaceEntry} {ip : Ip} {name : String} {rename : String → String}

theorem Qualifies.renamed (h : Qualifies es ip name) :
    Qualifies (es.map (renamed rename)) ip (rename name) := by
  obtain ⟨up, hup, hupName, hflags⟩ := h.up
  obtain ⟨brought, hbrought, hbroughtName, hbrings⟩ := h.brought
  constructor
  case up => exact ⟨_, List.mem_map_of_mem hup, congrArg rename hupName, hflags⟩
  case brought => exact ⟨_, List.mem_map_of_mem hbrought, congrArg rename hbroughtName, hbrings⟩

/-- What is said of a new name was said of one old name, as no two of them became the same. -/
theorem exists_qualifies_of_renamed
    (hinj : ∀ e ∈ es, ∀ f ∈ es, rename e.name = rename f.name → e.name = f.name)
    (h : Qualifies (es.map (renamed rename)) ip name) : ∃ old, Qualifies es ip old := by
  obtain ⟨_, hmem, hupName, hflags⟩ := h.up
  obtain ⟨up, hup, rfl⟩ := List.mem_map.1 hmem
  obtain ⟨_, hmem, hbroughtName, hbrings⟩ := h.brought
  obtain ⟨brought, hbrought, rfl⟩ := List.mem_map.1 hmem
  have hsame : brought.name = up.name := hinj _ hbrought _ hup (hbroughtName.trans hupName.symm)
  exact ⟨up.name, ⟨up, hup, rfl, hflags⟩, ⟨brought, hbrought, hsame, hbrings⟩⟩

end InterfaceEntry

namespace Host

/-- The host with other names for its interfaces. -/
def renamed (rename : String → String) (host : Host) : Host :=
  { host with
    interfaceEntries := host.interfaceEntries.map fun es => es.map (·.renamed rename) }

variable {host : Host} {rename : String → String}

/-- Whether an address has an owner is a matter of what is said of one name, whichever it is. -/
theorem isSome_owner?_renamed
    (hinj : ∀ name ∈ host.names, ∀ other ∈ host.names, rename name = rename other → name = other)
    (address : SourceAddress) :
    ((host.renamed rename).owner? address).isSome = (host.owner? address).isSome := by
  cases hentries : host.interfaceEntries with
  | error errno =>
    have hrenamed : (host.renamed rename).interfaceEntries = .error errno := by
      rw [renamed, hentries]
      rfl
    simp only [owner?, interfaces, hentries, hrenamed]
  | ok es =>
    have hrenamed : (host.renamed rename).interfaceEntries =
        .ok (es.map (·.renamed rename)) := by
      rw [renamed, hentries]
      rfl
    have hentryNames : ∀ e ∈ es, ∀ f ∈ es, rename e.name = rename f.name → e.name = f.name := by
      intro e he f hf
      simp only [names, hentries] at hinj
      exact hinj _ (List.mem_map_of_mem he) _ (List.mem_map_of_mem hf)
    simp only [owner?, interfaces, hentries, hrenamed]
    rw [Bool.eq_iff_iff, Option.isSome_iff_exists, Option.isSome_iff_exists,
      Interface.exists_owner?_table_iff, Interface.exists_owner?_table_iff]
    -- It is enough that some name qualifies; which of them comes first does not matter.
    constructor
    · rintro ⟨name, h⟩
      exact InterfaceEntry.exists_qualifies_of_renamed hentryNames h
    · rintro ⟨name, h⟩
      exact ⟨rename name, h.renamed⟩

end Host

namespace Program

/-- What is printed, and the exit code, for what a resolution came to. -/
def ending : Except Failure SourceAddress → String × UInt8
  | .ok address => (address.text ++ "\n", 0)
  | .error _ => ("", 1)

/-- The interface of a resolution is told in the log alone. -/
theorem finish_eq_ending (color : Bool) (threshold : Level) (d : Destination)
    (m : Run Resolution) :
    ((finish color threshold d m).stdout, (finish color threshold d m).code) =
      ending (m.result.map Resolution.address) := by
  cases hresult : m.result with
  | error failure =>
    obtain ⟨hcode, hstdout, -⟩ := @finish_of_error color threshold d m failure hresult
    rw [hcode, hstdout]
    rfl
  | ok r =>
    obtain ⟨hcode, hstdout⟩ := @finish_of_ok color threshold d m r hresult
    rw [hcode, hstdout]
    rfl

theorem run_renamed {host : Host} {rename : String → String}
    (hinj : ∀ name ∈ host.names, ∀ other ∈ host.names, rename name = rename other → name = other)
    (color : Bool) (arguments : List String) :
    (run (host.renamed rename) color arguments).stdout = (run host color arguments).stdout ∧
      (run (host.renamed rename) color arguments).code = (run host color arguments).code := by
  cases hread : CommandLine.read arguments with
  | error e => simp [run, hread]
  | ok command =>
    cases command with
    | help => simp [run, hread]
    | version => simp [run, hread]
    | run options =>
      -- The route is that of the same answers, and the owner has another name at most.
      have hsame : (resolution (host.renamed rename) options.settings).result.map
            Resolution.address =
          (resolution host options.settings).result.map Resolution.address := by
        rw [result_resolution, result_resolution, Resolution.ofSettings, Resolution.ofSettings,
          Resolution.result_resolve, Resolution.result_resolve]
        exact Reply.map_address_resolution (Host.isSome_owner?_renamed hinj) _ _ _
      rw [run_of_read hread, run_of_read hread, ← Prod.mk.injEq, finish_eq_ending,
        finish_eq_ending, hsame]

end Program

/-! ## What names can do -/

/-- Whatever the host calls its interfaces, no step of a session and no run of the program has a
command for a terminal in its log, but for the styles of a log in colour. If no name has a line end
in it, the log is one line for each event that the level lets through, and starts each with a
symbol. Other names, as long as different ones stay different, change neither what the program
prints nor its exit code. -/
theorem names_bring_no_commands :
    (∀ (s : Session) (before : List Session.Request) (request : Session.Request)
      (after : List Session.Request), ∃ report count,
      let requests := before ++ request :: after
      let events := report.notices.map Notice.event
      (s.run requests)[before.length]? = some (report, count) ∧
      ∀ threshold, Event.Harmless threshold events ∧
        ((∀ name ∈ (Session.hostAfter s.host before).names, '\n' ∉ name.toList) →
          Event.Lined threshold events) ∧
        ∀ color, ∃ step, (s.transcript threshold color requests)[before.length]? = some step ∧
          step.log = Event.log threshold color events) ∧
    (∀ (host : Host) (color : Bool) (arguments : List String) (options : CommandLine.Options),
      CommandLine.read arguments = .ok (.run options) →
      let m := Program.resolution host options.settings
      let events := m.notices.map Notice.event
      (Program.run host color arguments).stderr =
        Event.log options.level color events ++ Program.closing options.settings.destination m ∧
      Event.Harmless options.level events ∧
      ((∀ name ∈ host.names, '\n' ∉ name.toList) → Event.Lined options.level events)) ∧
    ∀ (host : Host) (color : Bool) (arguments : List String) (rename : String → String),
      (∀ name ∈ host.names, ∀ other ∈ host.names, rename name = rename other → name = other) →
      (Program.run (host.renamed rename) color arguments).stdout =
          (Program.run host color arguments).stdout ∧
        (Program.run (host.renamed rename) color arguments).code =
          (Program.run host color arguments).code := by
  refine ⟨fun s before request after => ?_, fun host color arguments options hread => ?_,
    fun host color arguments rename hinj => Program.run_renamed hinj color arguments⟩
  · have hreport := s.getElem?_run_append before after request
    have hnames := (before.foldl Session.next s).names_answerRequest_subset request
    rw [Session.foldl_next] at hreport hnames
    refine ⟨_, _, hreport, fun threshold => ⟨Notice.harmless_map_event _ threshold,
      fun hlines => Notice.lined_map_event hnames hlines threshold, fun color => ?_⟩⟩
    rw [Session.transcript, List.getElem?_map, hreport]
    exact ⟨_, rfl, rfl⟩
  · refine ⟨?_, Notice.harmless_map_event _ _, fun hlines => ?_⟩
    · rw [Program.run_of_read hread, Program.stderr_finish]
    · exact Notice.lined_map_event (Program.names_resolution_subset host _) hlines _

/-- A host with an interface of which the name is made to clear the screen. -/
def Host.clearing : Host where
  socketName := .ok fun _ => .v4 ⟨10, 0, 0, 5⟩ 40000
  interfaceEntries := .ok
    [{ name := "lo", flags := 9 },
      { name := "\x1b[2J", flags := 1, attachment := .address (.v4 ⟨10, 0, 0, 5⟩) none }]

/-- The name is told in characters that a terminal shows. A name that is no better can take its
place without a change to what is printed. -/
theorem names_bring_no_commands_of_clearing :
    let host := Host.clearing
    let options : CommandLine.Options := { verify := true, verbose := 1 }
    let events := (Program.resolution host options.settings).notices.map Notice.event
    let s : Session := { destination := default, prober := .host, host }
    let rename : String → String := fun name => if name = "lo" then "\n" else "\x07"
    CommandLine.read ["--verify", "-v"] = .ok (.run options) ∧
    (∀ name ∈ host.names, '\n' ∉ name.toList) ∧
    (∀ name ∈ host.names, ∀ other ∈ host.names, rename name = rename other → name = other) ∧
    (Event.log .info false events).toList =
      "[+] Outbound traffic leaves from 10.0.0.5\n[+] 10.0.0.5 is assigned to \\x1b[2J\n".toList ∧
    Event.Lined .info events ∧
    (∃ report count, (s.run [.standard, .check true])[1]? = some (report, count) ∧
      Event.Lined .trace (report.notices.map Notice.event)) ∧
    (Program.run (host.renamed rename) true ["--verify", "-v"]).stdout.toList =
      "10.0.0.5\n".toList := by
  intro host options events s rename
  have hread : CommandLine.read ["--verify", "-v"] = .ok (.run options) := rfl
  have hnames : host.names = ["lo", "\x1b[2J"] := rfl
  have hlines : ∀ name ∈ host.names, '\n' ∉ name.toList := by
    rw [hnames]
    simp
  have hinj : ∀ name ∈ host.names, ∀ other ∈ host.names,
      rename name = rename other → name = other := by
    rw [hnames]
    simp [rename]
  have hlog : (Event.log .info false events).toList =
      "[+] Outbound traffic leaves from 10.0.0.5\n[+] 10.0.0.5 is assigned to \\x1b[2J\n".toList :=
    by decide +kernel
  have hstdout :
      (Program.run host true ["--verify", "-v"]).stdout.toList = "10.0.0.5\n".toList := by
    decide +kernel
  obtain ⟨hsession, hrun, hrenamed⟩ := names_bring_no_commands
  obtain ⟨report, count, hreport, hstep⟩ := hsession s [.standard] (.check true) []
  refine ⟨hread, hlines, hinj, hlog, (hrun host true _ options hread).2.2 hlines,
    ⟨report, count, hreport, (hstep .trace).2.1 hlines⟩, ?_⟩
  rw [(hrenamed host true _ rename hinj).1, hstdout]

end Egress
