import Egress.Proofs.Entrances

/-!
# Levels — what the level of the log changes

How much is told, and in which colour, is decided when all else is done. Main statement: two runs of
the program with the same settings differ in their logs alone, and each log has the lines of just
those events that its level lets through, out of the events of one run that tells all. The steps of
a session do not depend on level and colour either, but for their logs.
-/

namespace Egress

/-! ## The run that tells all -/

namespace CommandLine

/-- Arguments that ask for every detail of a resolution. -/
theorem read_argumentsFor_trace (d : Destination) (verify : Bool) :
    read (argumentsFor d verify ++ ["-vvv"]) =
      .ok (.run { probe := some d.withoutFlow, verify, verbose := 3 }) := by
  rw [read, argumentsFor, List.cons_append, List.cons_append, Progress.read_probe]
  -- The first option behind the value has it looked at.
  cases verify with
  | false =>
    change (Progress.takeOption _ .verbose >>= fun p =>
      p.read [.option .verbose, .option .verbose]) = _
    rw [Progress.takeOption, settle_text]
    rfl
  | true =>
    change (Progress.takeOption _ .verify >>= fun p =>
      p.read [.option .verbose, .option .verbose, .option .verbose]) = _
    rw [Progress.takeOption, settle_text]
    rfl

/-- Whatever settings can be asked for at all can be asked for with every detail. -/
theorem exists_read_trace {arguments : List String} {options : Options}
    (h : read arguments = .ok (.run options)) :
    ∃ full fullOptions, read full = .ok (.run fullOptions) ∧
      fullOptions.settings = options.settings ∧ fullOptions.level = .trace := by
  obtain ⟨d, verify, hsettings⟩ : ∃ d verify, options.settings = { destination := d, verify } :=
    ⟨_, _, rfl⟩
  -- What was read has no flow label, so the printed destination reads as just what it was.
  have hd : d.withoutFlow = d := by
    simpa [hsettings] using withoutFlow_of_read h
  refine ⟨_, _, read_argumentsFor_trace d verify, ?_, rfl⟩
  rw [hsettings, hd]
  rfl

end CommandLine

/-! ## What stands in the log -/

namespace Event

/-- The log has the lines of the events that are severe enough, in their order. -/
theorem toList_log (threshold : Level) (color : Bool) (es : List Event) :
    (log threshold color es).toList =
      (es.filter fun e => threshold ≤ e.level).flatMap (line color) := by
  rw [log, String.toList_ofList, filter]

/-- The least severe level lets everything through. -/
theorem toList_log_trace (color : Bool) (es : List Event) :
    (log .trace color es).toList = es.flatMap (line color) := by
  rw [toList_log, List.filter_eq_self.2]
  intro e _
  exact decide_eq_true (Nat.zero_le e.level.severity)

end Event

namespace Program

variable (color : Bool) (threshold : Level) (d : Destination) (m : Run Resolution)

theorem closing_eq_empty_iff : closing d m = "" ↔ (finish color threshold d m).code = 0 := by
  cases h : m.result <;> simp [finish, closing, h, report_ne_empty]

/-- Of the whole output, only the log depends on colour and level. -/
theorem finish_congr (color' : Bool) (threshold' : Level) :
    (finish color threshold d m).stdout = (finish color' threshold' d m).stdout ∧
      (finish color threshold d m).code = (finish color' threshold' d m).code ∧
      (finish color threshold d m).calls = (finish color' threshold' d m).calls := by
  cases h : m.result <;> simp [finish, h]

end Program

/-! ## Sessions -/

namespace Session

def Step.withoutLog (step : Step) : Step := { step with log := "" }

theorem transcript_map_withoutLog (s : Session) (requests : List Request) (threshold : Level)
    (color : Bool) :
    (s.transcript threshold color requests).map Step.withoutLog =
      (s.run requests).map fun (report, probes) =>
        { answer := report.answer, log := "", calls := report.callTexts, probes } := by
  rw [transcript, List.map_map]
  rfl

theorem transcript_map_log (s : Session) (requests : List Request) (threshold : Level)
    (color : Bool) :
    (s.transcript threshold color requests).map (·.log.toList) =
      ((s.run requests).map fun r => r.1.notices.map Notice.event).map fun es =>
        (es.filter fun e => threshold ≤ e.level).flatMap (Event.line color) := by
  rw [transcript, List.map_map, List.map_map]
  refine List.map_congr_left fun r _ => ?_
  exact Event.toList_log threshold color _

end Session

/-! ## Two levels -/

/-- Two command lines that ask for the same settings have the program print the same, exit with the
same code and make the same calls. Behind their logs stands the same report, which is empty if they
succeed, and their logs have the lines of those events that are severe enough, out of all that a
third command line has told. In a session, level and colour make no difference but to the logs. -/
theorem level_changes_log_alone (host : Host) {arguments arguments' : List String}
    {options options' : CommandLine.Options}
    (hread : CommandLine.read arguments = .ok (.run options))
    (hread' : CommandLine.read arguments' = .ok (.run options'))
    (hsettings : options.settings = options'.settings) (color color' : Bool) :
    let output := Program.run host color arguments
    let output' := Program.run host color' arguments'
    let m := Program.resolution host options.settings
    let events := m.notices.map Notice.event
    let report := Program.closing options.settings.destination m
    (output.stdout = output'.stdout ∧ output.code = output'.code ∧ output.calls = output'.calls ∧
      (report = "" ↔ output.code = 0) ∧
      output.stderr.toList =
        (events.filter fun e => options.level ≤ e.level).flatMap (Event.line color) ++
          report.toList ∧
      output'.stderr.toList =
        (events.filter fun e => options'.level ≤ e.level).flatMap (Event.line color') ++
          report.toList ∧
      ∃ full fullOptions, CommandLine.read full = .ok (.run fullOptions) ∧
        fullOptions.settings = options.settings ∧ fullOptions.level = .trace ∧
        ∀ color, (Program.run host color full).stderr.toList =
          events.flatMap (Event.line color) ++ report.toList) ∧
    ∀ (s : Session) (requests : List Session.Request),
      ∃ (steps : List Session.Step) (events : List (List Event)), ∀ threshold color,
        (s.transcript threshold color requests).map Session.Step.withoutLog = steps ∧
        (s.transcript threshold color requests).map (·.log.toList) =
          events.map fun es =>
            (es.filter fun e => threshold ≤ e.level).flatMap (Event.line color) := by
  intro output output' m events report
  refine ⟨?_, ?_⟩
  · let d := options.settings.destination
    have houtput : output = Program.finish color options.level d m := Program.run_of_read hread
    have houtput' : output' = Program.finish color' options'.level d m := by
      rw [show output' = _ from Program.run_of_read hread', ← hsettings]
    obtain ⟨hstdout, hcode, hcalls⟩ :=
      Program.finish_congr color options.level d m color' options'.level
    obtain ⟨full, fullOptions, hfull, hsame, htrace⟩ := CommandLine.exists_read_trace hread
    rw [houtput, houtput']
    refine ⟨hstdout, hcode, hcalls, Program.closing_eq_empty_iff color options.level d m, ?_, ?_,
      full, fullOptions, hfull, hsame, htrace, ?_⟩
    · rw [Program.stderr_finish, String.toList_append, Event.toList_log]
    · rw [Program.stderr_finish, String.toList_append, Event.toList_log]
    · intro color
      rw [Program.run_of_read hfull, hsame, htrace, Program.stderr_finish,
        String.toList_append, Event.toList_log_trace]
  · intro s requests
    refine ⟨(s.transcript .trace false requests).map Session.Step.withoutLog,
      (s.run requests).map fun r => r.1.notices.map Notice.event, fun threshold color => ⟨?_, ?_⟩⟩
    · rw [Session.transcript_map_withoutLog, Session.transcript_map_withoutLog]
    · exact s.transcript_map_log requests threshold color

/-- A quiet run and one that tells all fail alike. -/
theorem level_changes_log_alone_of_failure :
    let host : Host := { connect := .error 101, socketName := .error 9 }
    let loopback : Destination := ⟨.v6 ⟨[0, 0, 0, 0, 0, 0, 0, 1], rfl⟩ 80 0 0, by decide⟩
    CommandLine.read ["-q", "--probe", "[::1]"] =
      .ok (.run { probe := some loopback, quiet := true }) ∧
    CommandLine.read ["-vv", "-p=::1", "-vv"] =
      .ok (.run { probe := some loopback, verbose := 4 }) ∧
    (Program.run host false ["-q", "--probe", "[::1]"]).code =
      (Program.run host true ["-vv", "-p=::1", "-vv"]).code := by
  intro host loopback
  have hquiet : CommandLine.read ["-q", "--probe", "[::1]"] =
      .ok (.run { probe := some loopback, quiet := true }) := rfl
  have hloud : CommandLine.read ["-vv", "-p=::1", "-vv"] =
      .ok (.run { probe := some loopback, verbose := 4 }) := rfl
  exact ⟨hquiet, hloud, (level_changes_log_alone host hquiet hloud rfl false true).1.2.1⟩

end Egress
