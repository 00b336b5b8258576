import Egress.Proofs.Readings
import Egress.Proofs.Spelling

/-!
# RoundTrip — printed destinations read back

The text of a destination tells all of it but the flow label. Main statement: a printed destination
reads back without its flow label, and two destinations print the same text exactly if they agree in
address, port and scope.
-/

namespace Egress

open Text

/-! ## Printed texts have nothing to trim -/

namespace Text

theorem digitValue?_of_isBlank {c : Char} (h : isBlank c = true) : digitValue? c = none := by
  refine Option.eq_none_iff_forall_ne_some.2 fun d hd => ?_
  -- No range of white space meets a range of digits.
  have hdigit := toNat_of_digitValue? hd
  simp only [isBlank, blankRanges, List.any_cons, List.any_nil, Bool.or_eq_true, Bool.and_eq_true,
    decide_eq_true_eq, Bool.or_false] at h
  omega

end Text

namespace Endpoint

theorem Written.isBlank_eq_false {cs : List Char} {e : Endpoint} (h : Written cs e) :
    ∀ c ∈ cs, isBlank c = false := by
  intro c hc
  cases hblank : isBlank c with
  | false =>
    rfl
  | true =>
    have hseparators : c ∉ ['.', ':', '%', '[', ']'] := by
      intro hmem
      simp only [List.mem_cons, List.not_mem_nil, or_false] at hmem
      rcases hmem with rfl | rfl | rfl | rfl | rfl
      all_goals exact absurd hblank (by decide)
    exact absurd hc (h.not_mem (digitValue?_of_isBlank hblank) hseparators)

theorem trim_chars (e : Endpoint) : trim e.chars = e.chars := by
  have hshown := e.written_chars.isBlank_eq_false
  -- It takes only the characters at both ends, but no character is blank.
  refine trim_eq_self ?_ ?_
  · intro c hc
    exact hshown c (List.mem_of_head? hc)
  · intro c hc
    exact hshown c (List.mem_of_getLast? hc)

/-! ## What a text tells -/

/-- What the text of an endpoint leaves out. Only IPv6 has it. -/
def flow? : Endpoint → Option UInt32
  | .v4 _ _ => none
  | .v6 _ _ _ flow => some flow

theorem withoutFlow_eq_iff {e f : Endpoint} :
    e.withoutFlow = f.withoutFlow ↔ e.ip = f.ip ∧ e.port = f.port ∧ e.scope? = f.scope? := by
  cases e <;> cases f <;> simp [withoutFlow, ip, port, scope?]

theorem eq_iff_withoutFlow {e f : Endpoint} :
    e = f ↔ e.withoutFlow = f.withoutFlow ∧ e.flow? = f.flow? := by
  cases e <;> cases f <;> simp [withoutFlow, flow?, and_assoc]

/-- The same text is read as one endpoint, so it was written for one, up to the flow label. -/
theorem text_eq_iff {e f : Endpoint} : e.text = f.text ↔ e.withoutFlow = f.withoutFlow := by
  constructor
  · intro h
    have hchars : e.chars = f.chars := by
      rw [← toList_text, h, toList_text]
    have hread := read?_chars e
    rw [hchars, read?_chars f] at hread
    exact (Option.some.inj hread).symm
  · intro h
    have hchars : e.chars = f.chars := by
      rw [← chars_withoutFlow, h, chars_withoutFlow]
    rw [text, hchars, text]

end Endpoint

/-! ## Destinations -/

namespace Destination

/-- The destination as its text tells it. -/
def withoutFlow (d : Destination) : Destination where
  endpoint := d.endpoint.withoutFlow
  port_ne_zero := by
    have hport : d.endpoint.withoutFlow.port = d.endpoint.port := by
      cases d.endpoint <;> rfl
    exact hport ▸ d.port_ne_zero

theorem eq_iff_endpoint {d d' : Destination} : d = d' ↔ d.endpoint = d'.endpoint := by
  cases d
  cases d'
  simp

theorem ofText_text (d : Destination) : ofText d.text = .ok d.withoutFlow := by
  have hinner : trim d.text.toList = d.endpoint.chars := by
    rw [text, Endpoint.toList_text, Endpoint.trim_chars]
  -- What is printed is an endpoint of the grammar, and that form is read first.
  have hread := readTrimmed_of_written d.endpoint.written_chars
  rw [← hinner] at hread
  exact hread.trans (ofEndpoint_eq_ok_iff.2 rfl)

theorem Reading.withoutFlow_eq {cs : List Char} {form : Form} {e : Endpoint}
    (h : Reading cs form e) : e.withoutFlow = e := by
  cases h with
  | ipv4Port => rfl
  | ipv6Port => rfl
  | scopedPort => rfl
  | @bare _ ip => cases ip <;> rfl
  | @bracketed _ ip => cases ip <;> rfl

/-- No text tells a flow label, so printing what was read loses nothing. -/
theorem withoutFlow_of_ofText {text : String} {d : Destination} (h : ofText text = .ok d) :
    d.withoutFlow = d := by
  obtain ⟨form, hreading⟩ := readTrimmed_eq_ok_iff.1 h
  exact eq_iff_endpoint.2 hreading.withoutFlow_eq

theorem ofText_text_of_ofText {text : String} {d : Destination} (h : ofText text = .ok d) :
    ofText d.text = .ok d := by
  rw [ofText_text, withoutFlow_of_ofText h]

/-- The text of the destination that a text is read as. -/
def reprint (text : String) : Except Error String :=
  (ofText text).map Destination.text

/-- Printing and reading back takes the flow label away and nothing else. So it gives back every
destination that was read from a text or is a standard one, it tells destinations apart that differ
in anything but the flow label, and a text that was printed once stays as it is. -/
theorem text_reads_back :
    (∀ e : Endpoint, e.port ≠ 0 → ∃ d, ofEndpoint e = .ok d ∧ d.endpoint = e ∧
      ∃ back, ofText d.text = .ok back ∧ back.endpoint = e.withoutFlow) ∧
    (∀ text d, ofText text = .ok d → ofText d.text = .ok d) ∧
    (∀ family, ofText (standard family).text = .ok (standard family)) ∧
    (∀ d d' : Destination, d.text = d'.text ↔
      d.endpoint.ip = d'.endpoint.ip ∧ d.endpoint.port = d'.endpoint.port ∧
        d.endpoint.scope? = d'.endpoint.scope?) ∧
    (∀ d d' : Destination, d = d' ↔
      d.text = d'.text ∧ d.endpoint.flow? = d'.endpoint.flow?) ∧
    ∀ text d, ofText text = .ok d → reprint d.text = .ok d.text := by
  refine ⟨?_, ?_, ?_, ?_, ?_, ?_⟩
  · intro e hport
    exact ⟨⟨e, hport⟩, ofEndpoint_eq_ok_iff.2 rfl, rfl, _, ofText_text _, rfl⟩
  · intro text d h
    exact ofText_text_of_ofText h
  · intro family
    rw [ofText_text]
    cases family <;> rfl
  · intro d d'
    exact Endpoint.text_eq_iff.trans Endpoint.withoutFlow_eq_iff
  · intro d d'
    calc
      d = d' ↔ d.endpoint = d'.endpoint := eq_iff_endpoint
      _ ↔ d.endpoint.withoutFlow = d'.endpoint.withoutFlow ∧
            d.endpoint.flow? = d'.endpoint.flow? := Endpoint.eq_iff_withoutFlow
      _ ↔ d.text = d'.text ∧ d.endpoint.flow? = d'.endpoint.flow? :=
            and_congr_left' Endpoint.text_eq_iff.symm
  · intro text d h
    simp [reprint, ofText_text_of_ofText h, Except.map]

/-- The first of two runs of zeros is left out, the scope is kept and the flow label is lost. What
was read from a text with zeros before its port reads back whole. -/
theorem text_reads_back_at_two_runs :
    (∃ d, ofEndpoint (.v6 ⟨[8193, 0, 0, 1, 0, 0, 1, 0], rfl⟩ 65535 4294967295 7) = .ok d ∧
      d.endpoint = .v6 ⟨[8193, 0, 0, 1, 0, 0, 1, 0], rfl⟩ 65535 4294967295 7 ∧
      ∃ back, ofText d.text = .ok back ∧
        back.endpoint = .v6 ⟨[8193, 0, 0, 1, 0, 0, 1, 0], rfl⟩ 65535 4294967295 0) ∧
    ofText " [::ffff:10.0.0.5%0]:00080" =
      .ok ⟨.v6 (.ofIpv4 ⟨10, 0, 0, 5⟩) 80 0 0, by decide⟩ ∧
    ofText (text ⟨.v6 (.ofIpv4 ⟨10, 0, 0, 5⟩) 80 0 0, by decide⟩) =
      .ok ⟨.v6 (.ofIpv4 ⟨10, 0, 0, 5⟩) 80 0 0, by decide⟩ := by
  refine ⟨text_reads_back.1 _ (by decide), rfl, ?_⟩
  exact text_reads_back.2.1 " [::ffff:10.0.0.5%0]:00080" _ rfl

end Destination
end Egress
