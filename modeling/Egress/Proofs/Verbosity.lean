import Egress.CommandLine.Reader

/-!
# Verbosity — how much log output is asked for

Each `-v` on the command line counts, whether it stands alone, in one argument with other options or
under its long name. Main statement: a command line that is read asks for as much as it has of them,
and for no more than the greatest count there is.
-/

namespace Egress
namespace CommandLine

namespace Progress

variable {p q : Progress}

theorem verbose_of_takeProbe {value : String} (h : p.takeProbe value = .ok q) :
    q.verbose = p.verbose := by
  obtain ⟨-, d, -, rfl⟩ := takeProbe_eq_ok_iff.1 h
  rfl

theorem verbose_of_settle (h : p.settle = .ok q) : q.verbose = p.verbose := by
  rcases settle_eq_ok_iff.1 h with ⟨-, rfl⟩ | ⟨value, -, h⟩
  · rfl
  · exact (verbose_of_takeProbe h).trans rfl

theorem verbose_of_takeFlag {o : Opt} (h : p.takeFlag o = .ok q) :
    q.verbose = if o = .verbose then min 255 (p.verbose + 1) else p.verbose := by
  rcases takeFlag_eq_ok_iff.1 h with ⟨rfl, rfl⟩ | ⟨hother, -, rfl⟩
  · rfl
  · rw [if_neg hother]

/-- Only the option itself counts, and not a value or a word that looks like it. -/
theorem verbose_of_take {t : Token} (h : p.take t = .ok q) :
    q.verbose = if t = .option .verbose then min 255 (p.verbose + 1) else p.verbose := by
  cases t with
  | option o =>
    obtain ⟨settled, hsettle, ⟨rfl, rfl⟩ | ⟨-, h⟩⟩ := takeOption_eq_ok_iff.1 h
    · simp [verbose_of_settle hsettle]
    · simpa [verbose_of_settle hsettle] using verbose_of_takeFlag h
  | attached value =>
    obtain ⟨settled, hsettle, h⟩ := bind_eq_ok_iff.1 h
    simp [verbose_of_takeProbe h, verbose_of_settle hsettle]
  | word text =>
    obtain ⟨-, rfl⟩ := takeWord_eq_ok_iff.1 h
    simp
  | wrong e => contradiction

/-- A count that has come to 255 stays there. -/
theorem verbose_of_foldlM {ts : List Token} (hp : p.verbose ≤ 255)
    (h : ts.foldlM take p = .ok q) :
    q.verbose = min 255 (p.verbose + ts.count (.option .verbose)) := by
  -- The induction is on the tokens, for whatever was counted in front of them.
  induction ts generalizing p with
  | nil =>
    cases h
    simp [hp]
  | cons t ts ih =>
    obtain ⟨next, htake, h⟩ := bind_eq_ok_iff.1 h
    have hnext := verbose_of_take htake
    by_cases ht : t = .option .verbose
    · rw [if_pos ht] at hnext
      rw [ih (by omega) h, ht, List.count_cons_self]
      omega
    · rw [if_neg ht] at hnext
      rw [ih (by omega) h, hnext, List.count_cons_of_ne ht]

end Progress

theorem verbose_of_read {arguments : List String} {options : Options}
    (h : read arguments = .ok (.run options)) :
    options.verbose = min 255 ((Token.ofArguments arguments).count (.option .verbose)) := by
  obtain ⟨-, -, q, hfold, hfinish⟩ := Progress.read_eq_run_iff.1 h
  obtain ⟨settled, hsettle, -, rfl⟩ := Progress.finish_eq_run_iff.1 hfinish
  have hcount := Progress.verbose_of_foldlM (by decide) hfold
  rw [← Progress.verbose_of_settle hsettle, Nat.zero_add] at hcount
  exact hcount

end CommandLine
end Egress
