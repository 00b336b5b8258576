import Egress.Program
import Std.Async.UDP

/-!
# The executable

The calls are made to the operating system, and what it answers is the host of the run.
-/

namespace Egress
namespace Main

open Std.Net (IPAddr SocketAddress InterfaceAddress)
open Std.Async.UDP (Socket)

/-! ## Errors -/

def errno : IO.Error → Errno
  | .alreadyExists _ code _ => code.toNat
  | .otherError code _ => code.toNat
  | .resourceBusy code _ => code.toNat
  | .resourceVanished code _ => code.toNat
  | .unsupportedOperation code _ => code.toNat
  | .hardwareFault code _ => code.toNat
  | .unsatisfiedConstraints code _ => code.toNat
  | .illegalOperation code _ => code.toNat
  | .protocolError code _ => code.toNat
  | .timeExpired code _ => code.toNat
  | .interrupted _ code _ => code.toNat
  | .noFileOrDirectory _ code _ => code.toNat
  | .invalidArgument _ code _ => code.toNat
  | .permissionDenied _ code _ => code.toNat
  | .resourceExhausted _ code _ => code.toNat
  | .inappropriateType _ code _ => code.toNat
  | .noSuchThing _ code _ => code.toNat
  | .unexpectedEof => 0
  | .userError _ => 0

def attempt {α : Type} (action : IO α) : IO (Except Errno α) := do
  try return .ok (← action)
  catch e => return .error (errno e)

/-! ## Addresses -/

def ipOf : IPAddr → Ip
  | .v4 ip => .v4 ⟨ip.octets[0], ip.octets[1], ip.octets[2], ip.octets[3]⟩
  | .v6 ip => .v6 ⟨ip.segments.toList, by simp⟩

def endpointOf (a : SocketAddress) : Endpoint := .ofIp a.port (ipOf a.ipAddr)

def socketAddress : Endpoint → SocketAddress
  | .v4 ip port => .v4 { addr := .ofParts ip.a ip.b ip.c ip.d, port }
  | .v6 ip port _ _ => .v6 { addr := ⟨ip.groups.toArray, by simp [ip.length_groups]⟩, port }

/-! ## The host -/

/-- Only interfaces that are up are listed, each once for each of its addresses. -/
def entryOf (a : InterfaceAddress) : InterfaceEntry where
  name := a.name
  flags := Interface.upFlag ||| if a.isLoopback then Interface.loopbackFlag else 0
  attachment := .address (ipOf a.address) (some (ipOf a.netMask))

def observeInterfaces : IO (Except Errno (List InterfaceEntry)) := do
  return (← attempt Std.Net.interfaceAddresses).map fun as => as.toList.map entryOf

/-- No call is made behind one that was refused. -/
def observeRoute (d : Destination) : IO Host := do
  let unasked : Host := { socketName := .ok Endpoint.wildcard }
  match ← attempt Socket.mk with
  | .error e => return { unasked with socket := .error e }
  | .ok socket =>
  match ← attempt (socket.bind (socketAddress d.bindPoint)) with
  | .error e => return { unasked with bind := .error e }
  | .ok () =>
  match ← attempt (socket.connect (socketAddress d.endpoint)) with
  | .error e => return { unasked with connect := .error e }
  | .ok () =>
    let name ← attempt socket.getSockName
    return { unasked with socketName := name.map fun a _ => endpointOf a }

def observe (s : Settings) : IO Host := do
  let host ← observeRoute s.destination
  if s.verify then return { host with interfaceEntries := ← observeInterfaces }
  return host

/-- The host of a run without calls. -/
def idle : Host := { socketName := .ok Endpoint.wildcard }

def colour : IO Bool := do
  return Colour.wanted (← IO.getEnv "CLICOLOR_FORCE") (← IO.getEnv "NO_COLOR")
    (← IO.getEnv "CLICOLOR") (← (← IO.getStdout).isTty)

end Main
end Egress

open Egress in
def main (arguments : List String) : IO UInt32 := do
  let host ← match CommandLine.read arguments with
    | .ok (.run options) => Main.observe options.settings
    | _ => pure Main.idle
  let output := Program.run host (← Main.colour) arguments
  IO.eprint (if output.code = 2 then output.stderr ++ "\n" else output.stderr)
  IO.print output.stdout
  return output.code.toUInt32
