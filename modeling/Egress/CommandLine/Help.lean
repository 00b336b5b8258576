import Egress.CommandLine.Option
import Egress.Terminal.Span

/-!
# Help

The texts that the program prints about itself.
-/

namespace Egress
namespace CommandLine

def versionText : String := "routeip 0.1.0\n"

namespace Opt

def description : Opt → String
  | .ipv6 => "Route towards the IPv6 default probe instead of the IPv4 one"
  | .probe => "Probe target as IP or IP:PORT. Only used for route selection, nothing is sent"
  | .verify => "Fail unless the address is assigned to a local interface that is up"
  | .verbose => "Increase log output on stderr (-v, -vv, -vvv)"
  | .quiet => "Only log errors"
  | .help => "Print help"
  | .version => "Print version"

/-- The two spellings of an option. Where there is only one, the place of the other stays empty. -/
def spellings (o : Opt) : List Span :=
  match o.short? with
  | some c => [.literal (String.ofList ['-', c]), ", ", .literal ("--" ++ o.long), o.suffix]
  | none => ["    ", .literal ("--" ++ o.long), o.suffix]

def width (o : Opt) : Nat := (Span.join false o.spellings).length

/-- The descriptions stand below each other, two columns behind the longest spellings. -/
def helpLine (color : Bool) (o : Opt) : List Char :=
  let column := (all.map width).foldl max 0 + 2
  [' ', ' '] ++ Span.join color o.spellings ++ List.replicate (column - o.width) ' ' ++
    o.description.toList ++ ['\n']

end Opt

def helpHead : List Span :=
  ["Print the local IP address used for outbound traffic.\n\n",
    .heading "Usage:", " ", .literal "routeip", " [OPTIONS]\n\n",
    .heading "Options:", "\n"]

def helpText (color : Bool) : String :=
  String.ofList (Span.join color helpHead ++ Opt.all.flatMap (Opt.helpLine color))

end CommandLine
end Egress
