/-!
# Options

The options of the command line, how they are spelt, and which of them exclude each other.
-/

namespace Egress
namespace CommandLine

inductive Opt
  | ipv6
  | probe
  | verify
  | verbose
  | quiet
  | help
  | version
  deriving DecidableEq, Repr

namespace Opt

def all : List Opt := [.ipv6, .probe, .verify, .verbose, .quiet, .help, .version]

def long : Opt → String
  | .ipv6 => "ipv6"
  | .probe => "probe"
  | .verify => "verify"
  | .verbose => "verbose"
  | .quiet => "quiet"
  | .help => "help"
  | .version => "version"

def short? : Opt → Option Char
  | .ipv6 => some '6'
  | .probe => some 'p'
  | .verify => none
  | .verbose => some 'v'
  | .quiet => some 'q'
  | .help => some 'h'
  | .version => some 'V'

/-- What stands behind the name where an option is explained: its value, or that it may be
repeated. -/
def suffix : Opt → String
  | .probe => " <ADDR>"
  | .verbose => "..."
  | .ipv6 => ""
  | .verify => ""
  | .quiet => ""
  | .help => ""
  | .version => ""

/-- An option as usage errors name it. -/
def label (o : Opt) : String := "--" ++ o.long ++ o.suffix

/-- A name has to be written out. -/
def ofLong? (name : String) : Option Opt := all.find? fun o => o.long = name

def ofShort? (c : Char) : Option Opt := all.find? fun o => o.short? = some c

/-- The option that cannot be given beside this one. -/
def rival? : Opt → Option Opt
  | .ipv6 => some .probe
  | .probe => some .ipv6
  | .verbose => some .quiet
  | .quiet => some .verbose
  | .verify => none
  | .help => none
  | .version => none

end Opt
end CommandLine
end Egress
