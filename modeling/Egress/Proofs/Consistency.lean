import Egress.Proofs.Occurrences
import Egress.Proofs.Verbosity

/-!
# Consistency — which occurrences go together, and what they ask for

An option other than `--verbose` may occur once, some options exclude each other, and a value has to
be a destination. Main statement: a command line is read exactly if its occurrences keep to this.
What it asks for is told by which options occur on it, and how often `--verbose` does, so that it
does not depend on their order.
-/

namespace Egress
namespace CommandLine

/-! ## Occurrences that go together -/

/-- Each occurrence can be taken up behind those in front of it. -/
structure Admissible (os : List Occurrence) : Prop where
  once : ∀ o : Opt, o ≠ .verbose → (os.map Occurrence.option).count o ≤ 1
  readable : ∀ value, .probe value ∈ os → ∃ d, Destination.ofText value = .ok d

/-- No occurrence excludes another one either. -/
structure Consistent (os : List Occurrence) : Prop extends Admissible os where
  ipv6_or_probe : .ipv6 ∈ os → ∀ value, .probe value ∉ os
  verbose_or_quiet : .verbose ∈ os → .quiet ∉ os

namespace Occurrence

/-- Of all options, only the one with a value can occur in different ways. -/
theorem option_inj {o x : Occurrence} (h : o.option ≠ .probe) : x.option = o.option ↔ x = o := by
  cases o <;> cases x <;> simp_all [option]

theorem option_mem_iff {os : List Occurrence} {o : Occurrence} (h : o.option ≠ .probe) :
    o.option ∈ os.map option ↔ o ∈ os := by
  simp [option_inj h]

theorem probe_mem_iff {os : List Occurrence} :
    .probe ∈ os.map option ↔ ∃ value, .probe value ∈ os := by
  rw [List.mem_map]
  constructor
  · rintro ⟨o, ho, hprobe⟩
    cases o <;> simp only [option, reduceCtorEq] at hprobe
    exact ⟨_, ho⟩
  · rintro ⟨value, hvalue⟩
    exact ⟨_, hvalue, rfl⟩

end Occurrence

section

variable {os more : List Occurrence} {o : Occurrence}

theorem Admissible.left (h : Admissible (os ++ more)) : Admissible os where
  once x hx := by
    have hcount := h.once x hx
    rw [List.map_append, List.count_append] at hcount
    omega
  readable value hvalue := h.readable value (List.mem_append_left more hvalue)

theorem Admissible.append_singleton_iff (h : Admissible os) :
    Admissible (os ++ [o]) ↔
      (o.option ≠ .verbose → o.option ∉ os.map Occurrence.option) ∧
        ∀ value, o = .probe value → ∃ d, Destination.ofText value = .ok d := by
  constructor
  · intro hall
    refine ⟨fun hother hmem => ?_, fun value hvalue => hall.readable value (by simp [hvalue])⟩
    have hcount := hall.once o.option hother
    have hpos := List.count_pos_iff.2 hmem
    rw [List.map_append, List.count_append, List.map_singleton, List.count_singleton_self] at hcount
    omega
  · rintro ⟨hfirst, hreadable⟩
    constructor
    case once =>
      intro x hx
      have hcount := h.once x hx
      rw [List.map_append, List.count_append, List.map_singleton]
      by_cases hsame : o.option = x
      · subst hsame
        have hzero := List.count_eq_zero.2 (hfirst hx)
        rw [List.count_singleton_self]
        omega
      · rw [List.count_singleton, if_neg (by simpa using hsame)]
        exact hcount
    case readable =>
      intro value hvalue
      rcases List.mem_append.1 hvalue with hvalue | hvalue
      · exact h.readable value hvalue
      · exact hreadable value (List.mem_singleton.1 hvalue).symm

theorem Consistent.perm {os' : List Occurrence} (h : Consistent os) (hperm : os.Perm os') :
    Consistent os' where
  once x hx := by
    rw [← (hperm.map Occurrence.option).count_eq]
    exact h.once x hx
  readable value hvalue := h.readable value (hperm.mem_iff.2 hvalue)
  ipv6_or_probe hipv6 value hvalue :=
    h.ipv6_or_probe (hperm.mem_iff.2 hipv6) value (hperm.mem_iff.2 hvalue)
  verbose_or_quiet hverbose hquiet :=
    h.verbose_or_quiet (hperm.mem_iff.2 hverbose) (hperm.mem_iff.2 hquiet)

end

/-! ## What was read -/

/-- What is known of the occurrences that were read. -/
structure Progress.Records (p : Progress) (os : List Occurrence) : Prop where
  given : ∀ o, o ∈ p.given ↔ o ∈ os.map Occurrence.option
  probe : ∀ d, p.probe = some d ↔ ∃ value, .probe value ∈ os ∧ Destination.ofText value = .ok d
  verbose : p.verbose = min 255 (os.count .verbose)

namespace Progress

variable {p q : Progress} {os before : List Occurrence} {o : Occurrence}

theorem records_nil : Records {} [] where
  given := by simp
  probe := by simp
  verbose := rfl

/-- Options without a value are recorded as such. -/
theorem Records.flag_mem_iff (h : p.Records os) (hflag : o.option ≠ .probe) :
    o.option ∈ p.given ↔ o ∈ os := by
  rw [h.given, Occurrence.option_mem_iff hflag]

theorem Records.probe_mem_iff (h : p.Records os) :
    .probe ∈ p.given ↔ ∃ value, .probe value ∈ os := by
  rw [h.given, Occurrence.probe_mem_iff]

theorem mem_given_of_takeFlag {o : Opt} (h : p.takeFlag o = .ok q) (x : Opt) :
    x ∈ q.given ↔ x ∈ p.given ∨ x = o := by
  rcases takeFlag_eq_ok_iff.1 h with ⟨-, rfl⟩ | ⟨-, -, rfl⟩
  · by_cases hx : x = o
    · simp [hx]
    · simp [hx, List.mem_erase_of_ne hx]
  · simp

theorem probe_of_takeFlag {o : Opt} (h : p.takeFlag o = .ok q) : q.probe = p.probe := by
  rcases takeFlag_eq_ok_iff.1 h with ⟨-, rfl⟩ | ⟨-, -, rfl⟩ <;> rfl

theorem Records.accept_flag (h : p.Records os) (hflag : o.option ≠ .probe)
    (hq : p.takeFlag o.option = .ok q) : q.Records (os ++ [o]) where
  given x := by
    rw [mem_given_of_takeFlag hq, h.given, List.map_append, List.mem_append, List.map_singleton,
      List.mem_singleton]
  probe d := by
    have hne : ∀ value, o ≠ .probe value := by
      rintro value rfl
      exact hflag rfl
    have hmem : ∀ value, .probe value ∈ os ++ [o] ↔ .probe value ∈ os := by
      intro value
      simp [(hne value).symm]
    simp only [probe_of_takeFlag hq, h.probe, hmem]
  verbose := by
    have hverbose : o.option = .verbose ↔ o = .verbose :=
      Occurrence.option_inj (o := .verbose) (by decide)
    rw [verbose_of_takeFlag hq, h.verbose, List.count_append, List.count_singleton]
    by_cases ho : o = .verbose
    · -- One more is counted on both sides, and the limit is met on both at once.
      rw [if_pos (hverbose.2 ho), if_pos (by simp [ho])]
      omega
    · rw [if_neg (mt hverbose.1 ho), if_neg (by simpa using ho), Nat.add_zero]

theorem Records.accept_probe {value : String} (h : p.Records os)
    (hq : p.takeProbe value = .ok q) : q.Records (os ++ [.probe value]) := by
  obtain ⟨hfirst, d, hd, rfl⟩ := takeProbe_eq_ok_iff.1 hq
  constructor
  case given =>
    intro x
    simp [h.given, Occurrence.option]
  case probe =>
    intro d'
    constructor
    · rintro ⟨rfl⟩
      exact ⟨value, by simp, hd⟩
    · rintro ⟨value', hmem, hd'⟩
      rcases List.mem_append.1 hmem with hmem | hmem
      · -- A value in front would have been the first.
        exact absurd (h.probe_mem_iff.2 ⟨value', hmem⟩) hfirst
      · cases List.mem_singleton.1 hmem
        rw [hd, Except.ok.injEq] at hd'
        rw [hd']
  case verbose =>
    simp [h.verbose]

/-- What an occurrence adds to what is known. -/
theorem Records.accept (h : p.Records os) (hq : p.accept o = .ok q) : q.Records (os ++ [o]) := by
  cases o with
  | probe value => exact h.accept_probe hq
  | _ => exact h.accept_flag (by decide) hq

theorem Records.foldlM (h : p.Records before) (hq : os.foldlM Progress.accept p = .ok q) :
    q.Records (before ++ os) := by
  induction os generalizing p before with
  | nil =>
    cases hq
    simpa using h
  | cons o os ih =>
    obtain ⟨next, hnext, hq⟩ := bind_eq_ok_iff.1 hq
    rw [List.append_cons]
    exact ih (h.accept hnext) hq

/-- An occurrence is refused only if it is repeated, or for its value. -/
theorem Records.exists_accept_iff (h : p.Records os) :
    (∃ q, p.accept o = .ok q) ↔
      (o.option ≠ .verbose → o.option ∉ os.map Occurrence.option) ∧
        ∀ value, o = .probe value → ∃ d, Destination.ofText value = .ok d := by
  rw [← h.given]
  cases o with
  | probe value =>
    simp only [Progress.accept, takeProbe_eq_ok_iff]
    constructor
    · rintro ⟨q, hfirst, d, hd, -⟩
      refine ⟨fun _ => hfirst, ?_⟩
      rintro value' ⟨rfl⟩
      exact ⟨d, hd⟩
    · rintro ⟨hfirst, hreadable⟩
      obtain ⟨d, hd⟩ := hreadable value rfl
      exact ⟨_, hfirst (by simp [Occurrence.option]), d, hd, rfl⟩
  | _ =>
    simp [Progress.accept, takeFlag_eq_ok_iff, Occurrence.option]

theorem Records.exists_foldlM_iff (h : p.Records before) (hbefore : Admissible before) :
    (∃ q, os.foldlM Progress.accept p = .ok q) ↔ Admissible (before ++ os) := by
  -- The induction is on the occurrences, for whatever was taken up in front of them.
  induction os generalizing p before with
  | nil => simpa [pure, Except.pure] using hbefore
  | cons o os ih =>
    rw [List.append_cons]
    constructor
    · rintro ⟨q, hq⟩
      obtain ⟨next, hnext, hq⟩ := bind_eq_ok_iff.1 hq
      have hstep := hbefore.append_singleton_iff.2 (h.exists_accept_iff.1 ⟨next, hnext⟩)
      exact (ih (h.accept hnext) hstep).1 ⟨q, hq⟩
    · intro hall
      have hstep : Admissible (before ++ [o]) := hall.left
      obtain ⟨next, hnext⟩ := h.exists_accept_iff.2 (hbefore.append_singleton_iff.1 hstep)
      obtain ⟨q, hq⟩ := (ih (h.accept hnext) hstep).2 hall
      exact ⟨q, bind_eq_ok_iff.2 ⟨next, hnext, hq⟩⟩

end Progress

/-! ## What is asked for -/

/-- How much is told for a number of `--verbose`. -/
def verbosity : Nat → Level
  | 0 => .warn
  | 1 => .info
  | 2 => .debug
  | _ => .trace

/-- What occurrences ask for. -/
structure Asks (os : List Occurrence) (settings : Settings) (level : Level) : Prop where
  verify : settings.verify = true ↔ .verify ∈ os
  destination : ∀ value d, .probe value ∈ os → Destination.ofText value = .ok d →
    settings.destination = d
  standard : (∀ value, .probe value ∉ os) →
    settings.destination = .standard (if .ipv6 ∈ os then .v6 else .v4)
  quiet : .quiet ∈ os → level = .error
  verbose : .quiet ∉ os → level = verbosity (os.count .verbose)

/-- To stop counting does not take anything back. -/
theorem verbosity_min (n : Nat) : verbosity (min 255 n) = verbosity n := by
  match n with
  | 0 | 1 | 2 => rfl
  | n + 3 =>
    have hmin : min 255 (n + 3) = min 252 n + 3 := by omega
    rw [hmin]
    rfl

theorem Options.level_eq (options : Options) :
    options.level = if options.quiet then .error else verbosity options.verbose := rfl

namespace Progress

variable {p q : Progress} {os os' : List Occurrence}

theorem conflict?_eq_none_iff {given : List Opt} :
    conflict? given = none ↔ ∀ o ∈ given, ∀ r, o.rival? = some r → r ∉ given := by
  simp [conflict?, Option.filter_eq_none_iff]

theorem conclude_eq_ok_iff {command : Command} :
    p.conclude = .ok command ↔ conflict? p.given = none ∧ command = .run p.options := by
  unfold conclude
  cases conflict? p.given <;> simp [eq_comm]

theorem Records.conflict?_eq_none_iff (h : p.Records os) (hos : Admissible os) :
    conflict? p.given = none ↔ Consistent os := by
  have hipv6 : .ipv6 ∈ p.given ↔ .ipv6 ∈ os := h.flag_mem_iff (o := .ipv6) (by decide)
  have hverbose : .verbose ∈ p.given ↔ .verbose ∈ os := h.flag_mem_iff (o := .verbose) (by decide)
  have hquiet : .quiet ∈ p.given ↔ .quiet ∈ os := h.flag_mem_iff (o := .quiet) (by decide)
  rw [Progress.conflict?_eq_none_iff]
  constructor
  · intro hnone
    refine ⟨hos, fun hmem value hvalue => ?_, fun hmem hmem' => ?_⟩
    · exact hnone .ipv6 (hipv6.2 hmem) .probe rfl (h.probe_mem_iff.2 ⟨value, hvalue⟩)
    · exact hnone .verbose (hverbose.2 hmem) .quiet rfl (hquiet.2 hmem')
  · intro hconsistent o ho r hr hmem
    -- Of two rivals, either may be the one that was met first.
    cases o with
    | ipv6 =>
      cases hr
      obtain ⟨value, hvalue⟩ := h.probe_mem_iff.1 hmem
      exact hconsistent.ipv6_or_probe (hipv6.1 ho) value hvalue
    | probe =>
      cases hr
      obtain ⟨value, hvalue⟩ := h.probe_mem_iff.1 ho
      exact hconsistent.ipv6_or_probe (hipv6.1 hmem) value hvalue
    | verbose =>
      cases hr
      exact hconsistent.verbose_or_quiet (hverbose.1 ho) (hquiet.1 hmem)
    | quiet =>
      cases hr
      exact hconsistent.verbose_or_quiet (hverbose.1 hmem) (hquiet.1 ho)
    | verify => contradiction
    | help => contradiction
    | version => contradiction

theorem Records.asks (h : p.Records os) : Asks os p.options.settings p.options.level where
  verify := by
    have hverify : .verify ∈ p.given ↔ .verify ∈ os := h.flag_mem_iff (o := .verify) (by decide)
    simp only [Options.settings, options, decide_eq_true_iff, hverify]
  destination value d hvalue hd := by
    have hprobe : p.probe = some d := (h.probe d).2 ⟨value, hvalue, hd⟩
    simp [Options.settings, options, hprobe]
  standard hnone := by
    have hipv6 : .ipv6 ∈ p.given ↔ .ipv6 ∈ os := h.flag_mem_iff (o := .ipv6) (by decide)
    have hprobe : p.probe = none := by
      refine Option.eq_none_iff_forall_ne_some.2 fun d hd => ?_
      obtain ⟨value, hvalue, -⟩ := (h.probe d).1 hd
      exact hnone value hvalue
    simp only [Options.settings, options, hprobe, Option.getD_none, decide_eq_true_iff, hipv6]
  quiet hmem := by
    have hquiet : .quiet ∈ p.given := (h.flag_mem_iff (o := .quiet) (by decide)).2 hmem
    simp [Options.level_eq, options, hquiet]
  verbose hmem := by
    have hquiet : .quiet ∉ p.given := mt (h.flag_mem_iff (o := .quiet) (by decide)).1 hmem
    simp [Options.level_eq, options, hquiet, h.verbose, verbosity_min]

/-- What was read in a different order is known all the same. -/
theorem Records.options_eq (hp : p.Records os) (hq : q.Records os') (hperm : os.Perm os') :
    p.options = q.options := by
  have hgiven : ∀ o, o ∈ p.given ↔ o ∈ q.given := by
    intro o
    rw [hp.given, hq.given, (hperm.map Occurrence.option).mem_iff]
  have hprobe : p.probe = q.probe := by
    ext d
    simp only [hp.probe, hq.probe, hperm.mem_iff]
  have hverbose : p.verbose = q.verbose := by
    rw [hp.verbose, hq.verbose, hperm.count_eq]
  simp only [options, hgiven, hprobe, hverbose]

end Progress

/-! ## Command lines -/

theorem read_eq_ok_iff {os : List Occurrence} {arguments : List String}
    (h : Written os arguments) {command : Command} :
    read arguments = .ok command ↔
      ∃ p, p.Records os ∧ os.foldlM Progress.accept {} = .ok p ∧ p.conclude = .ok command := by
  rw [read_of_written h, bind_eq_ok_iff]
  refine exists_congr fun p => ⟨fun ⟨hfold, hconclude⟩ => ⟨?_, hfold, hconclude⟩, And.right⟩
  exact Progress.records_nil.foldlM hfold

theorem exists_read_iff {os : List Occurrence} {arguments : List String}
    (h : Written os arguments) : (∃ command, read arguments = .ok command) ↔ Consistent os := by
  have hnil : Admissible [] := ⟨by simp, by simp⟩
  have hfolds : (∃ p, os.foldlM Progress.accept {} = .ok p) ↔ Admissible os :=
    Progress.records_nil.exists_foldlM_iff hnil
  simp only [read_eq_ok_iff h, Progress.conclude_eq_ok_iff]
  constructor
  · rintro ⟨command, p, hp, hfold, hnone, -⟩
    exact (hp.conflict?_eq_none_iff (hfolds.1 ⟨p, hfold⟩)).1 hnone
  · intro hconsistent
    obtain ⟨p, hfold⟩ := hfolds.2 hconsistent.toAdmissible
    have hp : p.Records os := Progress.records_nil.foldlM hfold
    exact ⟨_, p, hp, hfold, (hp.conflict?_eq_none_iff hconsistent.toAdmissible).2 hconsistent, rfl⟩

theorem read_of_perm {os os' : List Occurrence} {arguments arguments' : List String}
    (h : Written os arguments) (h' : Written os' arguments') (hperm : os.Perm os')
    {command : Command} (hread : read arguments = .ok command) :
    read arguments' = .ok command := by
  -- The other one is read as well, and the records of both are of the same occurrences.
  have hconsistent := ((exists_read_iff h).1 ⟨command, hread⟩).perm hperm
  obtain ⟨command', hread'⟩ := (exists_read_iff h').2 hconsistent
  obtain ⟨p, hp, -, hconclude⟩ := (read_eq_ok_iff h).1 hread
  obtain ⟨p', hp', -, hconclude'⟩ := (read_eq_ok_iff h').1 hread'
  have hcommand := (Progress.conclude_eq_ok_iff.1 hconclude).2
  have hcommand' := (Progress.conclude_eq_ok_iff.1 hconclude').2
  rw [hread', hcommand, hcommand', hp.options_eq hp' hperm]

/-- A command line is read if its occurrences go together, and it then asks for a run with what they
ask for. Every command line with the same occurrences, in any order and written in any way, is read
as the same. -/
theorem occurrences_tell_settings {os : List Occurrence} {arguments : List String}
    (h : Written os arguments) :
    ((∃ command, read arguments = .ok command) ↔ Consistent os) ∧
    (∀ command, read arguments = .ok command →
      ∃ options, command = .run options ∧ Asks os options.settings options.level) ∧
    ∀ os' arguments', os.Perm os' → Written os' arguments' →
      ∀ command, read arguments = .ok command ↔ read arguments' = .ok command := by
  refine ⟨exists_read_iff h, fun command hread => ?_, fun os' arguments' hperm h' command => ?_⟩
  · obtain ⟨p, hp, -, hconclude⟩ := (read_eq_ok_iff h).1 hread
    exact ⟨p.options, (Progress.conclude_eq_ok_iff.1 hconclude).2, hp.asks⟩
  · exact ⟨read_of_perm h h' hperm, read_of_perm h' h hperm.symm⟩

/-- Three letters in two arguments ask for all there is to tell, wherever they stand. -/
theorem occurrences_tell_settings_of_letters :
    let os : List Occurrence := [.verbose, .verbose, .probe "1.1.1.1:53", .verify, .verbose]
    let os' : List Occurrence := [.verify, .probe "1.1.1.1:53", .verbose, .verbose, .verbose]
    Written os ["-vvp", "1.1.1.1:53", "--verify", "-v"] ∧
      Written os' ["--verify", "--probe=1.1.1.1:53", "-vv", "--verbose"] ∧
      os.Perm os' ∧
      ∃ options, read ["-vvp", "1.1.1.1:53", "--verify", "-v"] = .ok (.run options) ∧
        read ["--verify", "--probe=1.1.1.1:53", "-vv", "--verbose"] =
          .ok (.run options) ∧
        options.level = .trace := by
  intro os os'
  have hletters : Clustered [.verbose, .verbose] ['v', 'v'] := .cons rfl (.cons rfl .nil)
  have hletter : Clustered [.verbose] ['v'] := .cons rfl .nil
  have hwritten : Written os ["-vvp", "1.1.1.1:53", "--verify", "-v"] :=
    .lettersProbe hletters (by decide) (.name rfl (.letters hletter (by simp) .nil))
  have hwritten' : Written os' ["--verify", "--probe=1.1.1.1:53", "-vv", "--verbose"] :=
    .name rfl (.probeWith (.letters hletters (by simp) (.name rfl .nil)))
  have hperm : os.Perm os' := by decide
  have hread : read ["-vvp", "1.1.1.1:53", "--verify", "-v"] =
      .ok (.run
        { probe := some ⟨.v4 ⟨1, 1, 1, 1⟩ 53, by decide⟩, verify := true, verbose := 3 }) := rfl
  have hsame := (occurrences_tell_settings hwritten).2.2 os' _ hperm hwritten'
  exact ⟨hwritten, hwritten', hperm, _, hread, (hsame _).1 hread, rfl⟩

end CommandLine
end Egress
