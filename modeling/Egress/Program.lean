import Egress.CommandLine.Help
import Egress.CommandLine.Reader
import Egress.Resolution

/-!
# The program

One run of the program: the source address on standard output, or nothing there; the log on
standard error, and behind it the report of a failure.
-/

namespace Egress

/-- What a run of the program leaves behind. -/
structure Output where
  code : UInt8
  stdout : String
  stderr : String
  /-- The calls that the run made to the host. -/
  calls : List Call := []
  deriving DecidableEq

namespace Program

/-- The resolution, and one more notice where it is a verified one. -/
def resolution (host : Host) (s : Settings) : Run Resolution := do
  let r ← Resolution.ofSettings host s
  match r.interface with
  | none => return r
  | some i =>
    Run.note (.verified i.name)
    return r

/-- The report of a failure, with its causes numbered if there are two. -/
def report (d : Destination) (failure : Failure) : String :=
  "Error: could not resolve the local address towards " ++ d.text ++ "\n\nCaused by:\n" ++
    match failure.cause? with
    | none => "    " ++ failure.message ++ "\n"
    | some cause => "    0: " ++ failure.message ++ "\n    1: " ++ cause.text ++ "\n"

/-- The end of a run, told in the colour and from the level that were asked for. -/
def finish (color : Bool) (threshold : Level) (d : Destination) (m : Run Resolution) : Output :=
  let log := Event.log threshold color (m.notices.map Notice.event)
  match m.result with
  | .ok r => { code := 0, stdout := r.address.text ++ "\n", stderr := log, calls := m.calls }
  | .error failure =>
    { code := 1, stdout := "", stderr := log ++ report d failure, calls := m.calls }

/-- A command line that cannot be read leads to no call to the host, and neither does a request for
help or version. -/
def run (host : Host) (color : Bool) (arguments : List String) : Output :=
  match CommandLine.read arguments with
  | .error e => { code := 2, stdout := "", stderr := e.printed color }
  | .ok .help => { code := 0, stdout := CommandLine.helpText color, stderr := "" }
  | .ok .version => { code := 0, stdout := CommandLine.versionText, stderr := "" }
  | .ok (.run options) =>
    finish color options.level options.settings.destination (resolution host options.settings)

end Program
end Egress
