import Egress.Inquiry

/-!
# Routes

Which local endpoint traffic towards a destination leaves from. The host tells it of a datagram
socket that is connected to the destination; a script of replies stands in for the host where the
answers are to be known beforehand.
-/

namespace Egress

namespace Host

/-- Connecting a datagram socket sends nothing, but makes the host select a route. -/
def route (host : Host) (d : Destination) : Run Endpoint := do
  Run.ask (.socket d.family) host.socket (.bind d.bindPoint)
  Run.ask (.bind d.bindPoint) host.bind (.bind d.bindPoint)
  Run.note (.bound d.bindPoint)
  Run.ask (.connect d.endpoint) host.connect (.connect d.endpoint)
  let name ← Run.ask .socketName host.socketName .localEndpoint
  Run.note (.routed d (name d.family))
  return name d.family

end Host

abbrev Reply := Except Failure Endpoint

/-- Who is asked for a route. -/
inductive Prober
  | host
  | script (first : Reply) (others : List Reply)

namespace Prober

/-- The reply to a question before which `asked` have been answered: the replies come in their
order, and the last of them comes again and again. -/
def replyAt (first : Reply) (others : List Reply) (asked : Nat) : Reply :=
  ((others.take asked).getLast?).getD first

def reply (prober : Prober) (host : Host) (asked : Nat) (d : Destination) : Run Endpoint :=
  match prober with
  | .host => host.route d
  | .script first others => .done (replyAt first others asked)

/-- A question to the prober and its reply. -/
def probe (prober : Prober) (host : Host) (d : Destination) : Inquiry Endpoint := do
  let asked ← Inquiry.asked
  Run.question d
  prober.reply host asked d

theorem after_probe (prober : Prober) (host : Host) (d : Destination) (asked : Nat) :
    (prober.probe host d).after asked =
      (Run.question d).andThen fun _ => prober.reply host asked d := rfl

theorem replyAt_eq_getElem {first : Reply} {others : List Reply} {asked : Nat}
    (h : asked < (first :: others).length) :
    replyAt first others asked = (first :: others)[asked] := by
  cases asked with
  | zero => simp [replyAt]
  | succ asked =>
    have hlt : asked < others.length := by simpa using h
    simp [replyAt, List.getLast?_take, hlt]

theorem replyAt_of_length_le {first : Reply} {others : List Reply} {asked : Nat}
    (h : others.length ≤ asked) :
    replyAt first others asked = (first :: others).getLast (by simp) := by
  cases others with
  | nil => simp [replyAt]
  | cons second others =>
    simp [replyAt, List.take_of_length_le h, List.getLast?_eq_some_getLast]

end Prober
end Egress
