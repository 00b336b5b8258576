import Egress.Program
import Egress.Proofs.RoundTrip

/-!
# FlowLabels — what no text tells

The flow label of an endpoint is never written, so what was read has none, and the host is asked the
same whatever it is. Main statement: a resolution towards a destination without its flow label comes
to the same result, and makes the same calls, as that towards the destination itself, up to flow
labels that no text tells.
-/

namespace Egress

/-! ## Texts -/

theorem Endpoint.text_withoutFlow (e : Endpoint) : e.withoutFlow.text = e.text := by
  rw [text, chars_withoutFlow, text]

theorem Destination.text_withoutFlow (d : Destination) : d.withoutFlow.text = d.text :=
  d.endpoint.text_withoutFlow

namespace Call

/-- The call as its text tells it. -/
def withoutFlow : Call → Call
  | .socket family => .socket family
  | .bind bindPoint => .bind bindPoint.withoutFlow
  | .connect remote => .connect remote.withoutFlow
  | .socketName => .socketName
  | .interfaceEntries => .interfaceEntries

theorem text_withoutFlow (call : Call) : call.withoutFlow.text = call.text := by
  cases call <;> simp only [withoutFlow, text, Endpoint.text_withoutFlow]

end Call

namespace Failure

/-- The failure as its message tells it. -/
def withoutFlow : Failure → Failure
  | .bind bindPoint cause => .bind bindPoint.withoutFlow cause
  | .connect remote cause => .connect remote.withoutFlow cause
  | .localEndpoint cause => .localEndpoint cause
  | .unspecified remote => .unspecified remote.withoutFlow
  | .unassigned ip => .unassigned ip

theorem message_withoutFlow (failure : Failure) :
    failure.withoutFlow.message = failure.message := by
  cases failure <;> unfold withoutFlow message <;> simp only [Endpoint.text_withoutFlow]

theorem cause?_withoutFlow (failure : Failure) : failure.withoutFlow.cause? = failure.cause? := by
  cases failure <;> rfl

@[simp] theorem mapError_withoutFlow_ok {α : Type} (a : α) :
    (Except.ok a).mapError withoutFlow = .ok a := rfl

@[simp] theorem mapError_withoutFlow_error {α : Type} (failure : Failure) :
    (Except.error failure : Except Failure α).mapError withoutFlow =
      .error failure.withoutFlow := rfl

end Failure

/-! ## Runs -/

namespace Run

variable {α β : Type}

/-- What the run comes to and the calls that it makes, as their texts tell them. -/
def withoutFlow (m : Run α) : Run α where
  result := m.result.mapError Failure.withoutFlow
  calls := m.calls.map Call.withoutFlow

theorem withoutFlow_andThen (m : Run α) (f : α → Run β) :
    (m.andThen f).withoutFlow = m.withoutFlow.andThen fun a => (f a).withoutFlow := by
  cases h : m.result <;> simp [withoutFlow, andThen, h]

theorem withoutFlow_andThen_congr {m n : Run α} {f g : α → Run β}
    (h : m.withoutFlow = n.withoutFlow) (hnext : ∀ a, (f a).withoutFlow = (g a).withoutFlow) :
    (m.andThen f).withoutFlow = (n.andThen g).withoutFlow := by
  rw [withoutFlow_andThen, withoutFlow_andThen, h, funext hnext]

theorem map_text_calls_of_withoutFlow_eq {m n : Run α} (h : m.withoutFlow = n.withoutFlow) :
    m.calls.map Call.text = n.calls.map Call.text := by
  have hcalls := congrArg (fun k => k.calls.map Call.text) h
  simpa only [withoutFlow, List.map_map, Function.comp_def, Call.text_withoutFlow] using hcalls

theorem mapError_result_of_withoutFlow_eq {m n : Run α} (h : m.withoutFlow = n.withoutFlow)
    (f : α → β) :
    (m.result.map f).mapError Failure.withoutFlow =
      (n.result.map f).mapError Failure.withoutFlow := by
  have hswap : ∀ k : Run α,
      (k.result.map f).mapError Failure.withoutFlow = k.withoutFlow.result.map f := by
    intro k
    cases hk : k.result <;> simp [withoutFlow, Except.map, hk]
  rw [hswap, hswap, h]

end Run

/-! ## Resolutions -/

namespace Destination

theorem endpoint_withoutFlow (d : Destination) :
    d.withoutFlow.endpoint = d.endpoint.withoutFlow := rfl

theorem family_withoutFlow (d : Destination) : d.withoutFlow.family = d.family := by
  cases h : d.endpoint <;> simp [family, withoutFlow, Endpoint.withoutFlow, Endpoint.family,
    Endpoint.ip, h]

theorem bindPoint_withoutFlow (d : Destination) : d.withoutFlow.bindPoint = d.bindPoint := by
  rw [bindPoint, family_withoutFlow, bindPoint]

end Destination

theorem Endpoint.withoutFlow_withoutFlow (e : Endpoint) :
    e.withoutFlow.withoutFlow = e.withoutFlow := by
  cases e <;> rfl

namespace Host

theorem withoutFlow_route (host : Host) (d : Destination) :
    (host.route d.withoutFlow).withoutFlow = (host.route d).withoutFlow := by
  simp only [route, Run.bind_eq_andThen, d.family_withoutFlow, d.bindPoint_withoutFlow]
  -- Socket and bind point are those of the family; only the destination itself has a label.
  refine Run.withoutFlow_andThen_congr rfl fun _ => ?_
  refine Run.withoutFlow_andThen_congr rfl fun _ => ?_
  refine Run.withoutFlow_andThen_congr rfl fun _ => ?_
  refine Run.withoutFlow_andThen_congr ?_ fun _ => ?_
  · cases host.connect <;>
      simp [Run.withoutFlow, Call.withoutFlow, Failure.withoutFlow,
        Destination.endpoint_withoutFlow, Endpoint.withoutFlow_withoutFlow]
  refine Run.withoutFlow_andThen_congr rfl fun _ => ?_
  exact Run.withoutFlow_andThen_congr rfl fun _ => rfl

end Host

namespace Resolution

theorem withoutFlow_source {d : Destination} {route route' : Run Endpoint}
    (h : route.withoutFlow = route'.withoutFlow) :
    (source d.withoutFlow route).withoutFlow = (source d route').withoutFlow := by
  simp only [source, Run.bind_eq_andThen]
  refine Run.withoutFlow_andThen_congr rfl fun _ => ?_
  refine Run.withoutFlow_andThen_congr h fun via => ?_
  -- The route's end gives the address; only the failure for a wildcard names the destination.
  cases SourceAddress.ofIp? via.ip with
  | some address => rfl
  | none =>
    simp [Run.withoutFlow, Run.fail, Run.done, Failure.withoutFlow,
      Destination.endpoint_withoutFlow, Endpoint.withoutFlow_withoutFlow]

/-- Asked for a destination without its flow label, the host answers with the same address. -/
theorem withoutFlow_ofSettings (host : Host) (d : Destination) (verify : Bool) :
    (ofSettings host { destination := d.withoutFlow, verify }).withoutFlow =
      (ofSettings host { destination := d, verify }).withoutFlow := by
  simp only [ofSettings, resolve, Run.bind_eq_andThen]
  exact Run.withoutFlow_andThen_congr (withoutFlow_source (host.withoutFlow_route d)) fun _ => rfl

end Resolution

/-! ## Destinations that were read -/

namespace CommandLine

namespace Progress

variable {p q : Progress}

/-- The destination that was given has no flow label. -/
def Unlabelled (p : Progress) : Prop := ∀ d ∈ p.probe, d.withoutFlow = d

theorem unlabelled_of_takeProbe {value : String} (h : p.takeProbe value = .ok q) :
    q.Unlabelled := by
  obtain ⟨-, d, hread, rfl⟩ := takeProbe_eq_ok_iff.1 h
  rintro _ ⟨rfl⟩
  exact Destination.withoutFlow_of_ofText hread

theorem Unlabelled.settle (hp : p.Unlabelled) (h : p.settle = .ok q) : q.Unlabelled := by
  rcases settle_eq_ok_iff.1 h with ⟨-, rfl⟩ | ⟨value, -, h⟩
  · exact hp
  · exact unlabelled_of_takeProbe h

theorem Unlabelled.takeFlag {o : Opt} (hp : p.Unlabelled) (h : p.takeFlag o = .ok q) :
    q.Unlabelled := by
  -- No flag changes the destination.
  rcases takeFlag_eq_ok_iff.1 h with ⟨-, rfl⟩ | ⟨-, -, rfl⟩
  · exact hp
  · exact hp

theorem Unlabelled.take {t : Token} (hp : p.Unlabelled) (h : p.take t = .ok q) :
    q.Unlabelled := by
  cases t with
  | option o =>
    obtain ⟨settled, hsettle, h⟩ := takeOption_eq_ok_iff.1 h
    have hsettled := hp.settle hsettle
    rcases h with ⟨-, rfl⟩ | ⟨-, h⟩
    · exact hsettled
    · exact hsettled.takeFlag h
  | attached value =>
    obtain ⟨settled, -, h⟩ := bind_eq_ok_iff.1 h
    exact unlabelled_of_takeProbe h
  | word text =>
    obtain ⟨-, rfl⟩ := takeWord_eq_ok_iff.1 h
    exact hp
  | wrong e => contradiction

theorem Unlabelled.foldlM {ts : List Token} (hp : p.Unlabelled)
    (h : ts.foldlM Progress.take p = .ok q) : q.Unlabelled := by
  -- The induction is on the tokens, for whatever was given in front of them.
  induction ts generalizing p with
  | nil =>
    cases h
    exact hp
  | cons t ts ih =>
    obtain ⟨next, htake, h⟩ := bind_eq_ok_iff.1 h
    exact ih (hp.take htake) h

theorem Unlabelled.read {ts : List Token} {options : Options} (hp : p.Unlabelled)
    (h : p.read ts = .ok (.run options)) : ∀ d ∈ options.probe, d.withoutFlow = d := by
  obtain ⟨-, -, q, hfold, hfinish⟩ := read_eq_run_iff.1 h
  obtain ⟨settled, hsettle, -, rfl⟩ := finish_eq_run_iff.1 hfinish
  exact (hp.foldlM hfold).settle hsettle

end Progress

/-- Neither the value of `--probe` nor a standard destination has a flow label. -/
theorem withoutFlow_of_read {arguments : List String} {options : Options}
    (h : read arguments = .ok (.run options)) :
    options.settings.destination.withoutFlow = options.settings.destination := by
  have hprobe := Progress.Unlabelled.read (p := {}) (by simp [Progress.Unlabelled]) h
  cases hgiven : options.probe with
  | some d => simpa [Options.settings, hgiven] using hprobe d hgiven
  | none => cases hsix : options.ipv6 <;> simp [Options.settings, hgiven, hsix] <;> rfl

end CommandLine
end Egress
