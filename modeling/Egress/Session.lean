import Egress.Refusal
import Egress.Resolution

/-!
# Sessions

A session resolves one destination again and again, with a host that may change in between. It
counts how often its prober was asked, which is told by what its requests led to; the replies of a
script depend on that count and on nothing else.
-/

namespace Egress

structure Session where
  destination : Destination
  prober : Prober
  host : Host
  /-- How often the prober was asked. -/
  probes : Nat := 0

namespace Session

/-! ## Requests and answers -/

inductive Request
  | destination
  | resolve
  | check (verify : Bool)
  /-- A resolution of its own, which always asks the host. -/
  | settings (destination : Except Refusal Destination) (verify : Bool)
  /-- A resolution of its own towards the destination for which none is asked for. -/
  | standard
  | owner (ip : Except Refusal Ip)
  | host (next : Host)

/-- The host that a request puts in the place of the one before. -/
def Request.host? : Request → Option Host
  | .host next => some next
  | _ => none

inductive Answer
  | destination (destination : Destination)
  | address (result : Except Failure SourceAddress)
  | resolution (result : Except Failure Resolution)
  | owner (interface : Option Interface)
  /-- The address that an owner was asked for is no source address. -/
  | noSource
  | done
  | refused (why : Refusal)

/-- What a request led to. -/
structure Report where
  answer : Answer
  /-- The destinations that the prober of the session was asked for. -/
  probed : List Destination := []
  calls : List Call := []
  notices : List Notice := []

namespace Report

def ofRun {α : Type} (answer : Except Failure α → Answer) (m : Run α) : Report where
  answer := answer m.result
  probed := m.probed
  calls := m.calls
  notices := m.notices

/-- Questions to the prober, and behind them the calls to the host. -/
def callTexts (r : Report) : List String :=
  (r.probed.map fun d => "probe " ++ d.text) ++ r.calls.map Call.text

def log (threshold : Level) (color : Bool) (r : Report) : String :=
  Event.log threshold color (r.notices.map Notice.event)

end Report

/-! ## Steps -/

/-- The question that the session asks its prober. -/
def probe (s : Session) : Inquiry Endpoint := s.prober.probe s.host s.destination

def answerRequest (s : Session) : Request → Report
  | .destination => { answer := .destination s.destination }
  | .resolve => .ofRun .address ((Resolution.source s.destination s.probe).after s.probes)
  | .check verify =>
    .ofRun .resolution ((Resolution.resolve s.host s.destination s.probe verify).after s.probes)
  | .settings (.ok destination) verify =>
    .ofRun .resolution (Resolution.ofSettings s.host { destination, verify })
  | .settings (.error why) _ => { answer := .refused why }
  | .standard => .ofRun .address (Resolution.source default (s.host.route default))
  | .owner (.ok ip) =>
    match SourceAddress.ofIp? ip with
    | none => { answer := .noSource }
    | some address =>
      .ofRun (fun _ => .owner (s.host.owner? address)) (Resolution.owner s.host address)
  | .owner (.error why) => { answer := .refused why }
  | .host _ => { answer := .done }

/-- The session behind a request, with the questions that the request led to. -/
def next (s : Session) (request : Request) : Session :=
  { s with
    host := request.host?.getD s.host
    probes := s.probes + (s.answerRequest request).probed.length }

/-- Each request with the number of questions to the prober that there were up to its end. -/
def run (s : Session) : List Request → List (Report × Nat)
  | [] => []
  | request :: requests =>
    (s.answerRequest request, (s.next request).probes) :: (s.next request).run requests

/-- A step as it is told: what came of it, with its log from a threshold on. -/
structure Step where
  answer : Answer
  log : String
  calls : List String
  probes : Nat

def transcript (threshold : Level) (color : Bool) (s : Session) (requests : List Request) :
    List Step :=
  (s.run requests).map fun (report, probes) =>
    { answer := report.answer
      log := report.log threshold color
      calls := report.callTexts
      probes }

theorem length_run (s : Session) (requests : List Request) :
    (s.run requests).length = requests.length := by
  induction requests generalizing s with
  | nil => rfl
  | cons request requests ih => simp [run, ih]

theorem run_append (s : Session) (before after : List Request) :
    s.run (before ++ after) = s.run before ++ (before.foldl next s).run after := by
  induction before generalizing s with
  | nil => rfl
  | cons request before ih => simp [run, ih]

end Session
end Egress
