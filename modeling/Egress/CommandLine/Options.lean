import Egress.Log.Level
import Egress.Settings

/-!
# Commands

What a command line asks for: a run with its options, or a text about the program.
-/

namespace Egress
namespace CommandLine

/-- What a command line asks for in a run. -/
structure Options where
  probe : Option Destination := none
  ipv6 : Bool := false
  verify : Bool := false
  /-- How often more log output was asked for, up to 255 times. -/
  verbose : Nat := 0
  quiet : Bool := false
  deriving DecidableEq, Repr

namespace Options

def settings (o : Options) : Settings where
  destination := o.probe.getD (.standard (if o.ipv6 then .v6 else .v4))
  verify := o.verify

def level (o : Options) : Level :=
  if o.quiet then .error
  else
    match o.verbose with
    | 0 => .warn
    | 1 => .info
    | 2 => .debug
    | _ => .trace

end Options

inductive Command
  | run (options : Options)
  | help
  | version
  deriving DecidableEq, Repr

end CommandLine
end Egress
