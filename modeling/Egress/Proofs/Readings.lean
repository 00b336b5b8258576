import Egress.Destination.Grammar

/-!
# Readings — what a text says as a destination

White space at the ends of a text says nothing. What is left has one of five forms: an address with
a port, where an IPv6 address stands in brackets and may have a scope, or an address alone, with or
without brackets. The forms are told without reading from left to right, and no text has two of
them. Main statement: which texts are read as which destination, and why all others are refused.
-/

namespace Egress

open Text

/-! ## White space -/

namespace Text

/-- What is left of a text without the white space at its ends, and with all the rest of it. -/
structure Trimmed (cs inner : List Char) : Prop where
  append : ∃ before after : List Char, cs = before ++ inner ++ after ∧
    (∀ c ∈ before, isBlank c = true) ∧ ∀ c ∈ after, isBlank c = true
  head : ∀ c ∈ inner.head?, isBlank c = false
  last : ∀ c ∈ inner.getLast?, isBlank c = false

theorem isBlank_of_mem_head?_dropWhile (cs : List Char) :
    ∀ c ∈ (cs.dropWhile isBlank).head?, isBlank c = false := by
  intro c hc
  have hhead := List.head?_dropWhile_not isBlank cs
  rwa [Option.mem_def.1 hc] at hhead

theorem trimmed_trim (cs : List Char) : Trimmed cs (trim cs) where
  append := exists_append_trim_append cs
  head := by
    intro c hc
    obtain ⟨after, hafter, -⟩ := exists_trimEnd_append (cs.dropWhile isBlank)
    have hfirst : (trimEnd (cs.dropWhile isBlank)).head? = some c := hc
    -- Nothing was taken away in front of the first character that is left.
    refine isBlank_of_mem_head?_dropWhile cs c ?_
    rw [hafter]
    simp [hfirst]
  last := by
    intro c hc
    rw [trim, trimEnd, List.getLast?_reverse] at hc
    exact isBlank_of_mem_head?_dropWhile _ c hc

end Text

namespace Destination

/-! ## Forms -/

/-- The ways to write a destination. -/
inductive Form
  | ipv4Port
  | ipv6Port
  | scopedPort
  | bare
  | bracketed
  deriving DecidableEq, Repr

namespace Form

def hasPort : Form → Bool
  | .ipv4Port => true
  | .ipv6Port => true
  | .scopedPort => true
  | .bare => false
  | .bracketed => false

def hasBrackets : Form → Bool
  | .ipv4Port => false
  | .ipv6Port => true
  | .scopedPort => true
  | .bare => false
  | .bracketed => true

def hasScope : Form → Bool
  | .ipv4Port => false
  | .ipv6Port => false
  | .scopedPort => true
  | .bare => false
  | .bracketed => false

theorem eq_of_has {f g : Form} (hport : f.hasPort = g.hasPort)
    (hbrackets : f.hasBrackets = g.hasBrackets) (hscope : f.hasScope = g.hasScope) : f = g := by
  cases f <;> cases g <;> first | rfl | contradiction

end Form

/-- A text in one of the forms, and the endpoint that it names. A scope that is not written is zero,
a port that is not written is 80, and no text tells a flow label. -/
inductive Reading : List Char → Form → Endpoint → Prop
  | ipv4Port {host ps : List Char} {ip : Ipv4} {port : UInt16} :
      Ipv4.Written host ip → Endpoint.Port ps port →
      Reading (host ++ ':' :: ps) .ipv4Port (.v4 ip port)
  | ipv6Port {host ps : List Char} {ip : Ipv6} {port : UInt16} :
      Ipv6.Written host ip → Endpoint.Port ps port →
      Reading ('[' :: (host ++ ']' :: ':' :: ps)) .ipv6Port (.v6 ip port 0 0)
  | scopedPort {host ss ps : List Char} {ip : Ipv6} {scope : UInt32} {port : UInt16} :
      Ipv6.Written host ip → Endpoint.Scope ss scope → Endpoint.Port ps port →
      Reading ('[' :: (host ++ '%' :: ss ++ ']' :: ':' :: ps)) .scopedPort (.v6 ip port scope 0)
  | bare {cs : List Char} {ip : Ip} :
      Ip.Written cs ip → Reading cs .bare (.ofIp 80 ip)
  | bracketed {cs : List Char} {ip : Ip} :
      Ip.Written cs ip → Reading ('[' :: (cs ++ [']'])) .bracketed (.ofIp 80 ip)

namespace Reading

variable {cs : List Char} {form : Form} {e : Endpoint}

/-! ## Readings and the grammar -/

theorem written (h : Reading cs form e) (hport : form.hasPort = true) : Endpoint.Written cs e := by
  cases h with
  | ipv4Port hip hps => exact .v4 hip hps
  | ipv6Port hip hps => exact .v6 (.bare hip) hps
  | scopedPort hip hss hps => exact .v6 (.withScope hip hss) hps
  | bare => contradiction
  | bracketed => contradiction

theorem exists_bare (h : Reading cs form e) (hport : form.hasPort = false) :
    ∃ ip, Bare cs ip ∧ e = .ofIp standardPort ip := by
  cases h with
  | ipv4Port => contradiction
  | ipv6Port => contradiction
  | scopedPort => contradiction
  | bare hip => exact ⟨_, .plain hip, rfl⟩
  | bracketed hip => exact ⟨_, .bracketed hip, rfl⟩

theorem exists_of_written (h : Endpoint.Written cs e) :
    ∃ form : Form, form.hasPort = true ∧ Reading cs form e := by
  cases h with
  | v4 hip hps => exact ⟨.ipv4Port, rfl, ipv4Port hip hps⟩
  | v6 hinside hps =>
    cases hinside with
    | bare hip => exact ⟨.ipv6Port, rfl, ipv6Port hip hps⟩
    | withScope hip hss => exact ⟨.scopedPort, rfl, scopedPort hip hss hps⟩

theorem exists_of_bare {ip : Ip} (h : Bare cs ip) :
    ∃ form : Form, Reading cs form (.ofIp standardPort ip) := by
  cases h with
  | plain hip => exact ⟨.bare, bare hip⟩
  | bracketed hip => exact ⟨.bracketed, bracketed hip⟩

/-! ## One reading for a text -/

/-- Reading an endpoint comes first, but that matters only to texts of that form. -/
theorem readTrimmed_eq (h : Reading cs form e) : readTrimmed cs = ofEndpoint e := by
  cases hport : form.hasPort with
  | true => exact readTrimmed_of_written (h.written hport)
  | false =>
    obtain ⟨ip, hbare, rfl⟩ := h.exists_bare hport
    exact readTrimmed_of_bare hbare

theorem hasPort_eq {f g : Form} {e' : Endpoint} (h : Reading cs f e) (h' : Reading cs g e') :
    f.hasPort = g.hasPort := by
  -- An endpoint is never a bare address, so a text is of one kind.
  cases hf : f.hasPort <;> cases hg : g.hasPort
  · rfl
  · obtain ⟨ip, hbare, -⟩ := h.exists_bare hf
    exact absurd hbare (not_bare_of_written (h'.written hg))
  · obtain ⟨ip, hbare, -⟩ := h'.exists_bare hg
    exact absurd hbare (not_bare_of_written (h.written hf))
  · rfl

theorem hasBrackets_iff (h : Reading cs form e) : form.hasBrackets = true ↔ '[' ∈ cs := by
  cases h with
  | ipv4Port hip hps =>
    have hhost := hip.not_mem (x := '[') (by decide) (by decide)
    have hport := hps.not_mem (x := '[') (by decide)
    simp [Form.hasBrackets, hhost, hport]
  | ipv6Port => simp [Form.hasBrackets]
  | scopedPort => simp [Form.hasBrackets]
  | bare hip =>
    have hcs := hip.not_mem (x := '[') (by decide) (by decide) (by decide)
    simp [Form.hasBrackets, hcs]
  | bracketed => simp [Form.hasBrackets]

theorem hasScope_iff (h : Reading cs form e) : form.hasScope = true ↔ '%' ∈ cs := by
  cases h with
  | ipv4Port hip hps =>
    have hhost := hip.not_mem (x := '%') (by decide) (by decide)
    have hport := hps.not_mem (x := '%') (by decide)
    simp [Form.hasScope, hhost, hport]
  | ipv6Port hip hps =>
    have hhost := hip.not_mem (x := '%') (by decide) (by decide) (by decide)
    have hport := hps.not_mem (x := '%') (by decide)
    simp [Form.hasScope, hhost, hport]
  | scopedPort => simp [Form.hasScope]
  | bare hip =>
    have hcs := hip.not_mem (x := '%') (by decide) (by decide) (by decide)
    simp [Form.hasScope, hcs]
  | bracketed hip =>
    have hcs := hip.not_mem (x := '%') (by decide) (by decide) (by decide)
    simp [Form.hasScope, hcs]

/-- Each of the three features of a form shows in the text. -/
theorem form_unique {f g : Form} {e' : Endpoint} (h : Reading cs f e) (h' : Reading cs g e') :
    f = g := by
  have hbrackets : f.hasBrackets = true ↔ g.hasBrackets = true :=
    h.hasBrackets_iff.trans h'.hasBrackets_iff.symm
  have hscope : f.hasScope = true ↔ g.hasScope = true :=
    h.hasScope_iff.trans h'.hasScope_iff.symm
  exact Form.eq_of_has (h.hasPort_eq h') (Bool.eq_iff_iff.2 hbrackets) (Bool.eq_iff_iff.2 hscope)

theorem endpoint_unique {g : Form} {e' : Endpoint} (h : Reading cs form e)
    (h' : Reading cs g e') : e = e' := by
  have hsame := h.hasPort_eq h'
  -- Both are what the reader for their kind takes the text for.
  cases hport : form.hasPort with
  | true =>
    have hread := Endpoint.read?_eq_some_iff.2 (h.written hport)
    rw [Endpoint.read?_eq_some_iff.2 (h'.written (hsame ▸ hport))] at hread
    exact (Option.some.inj hread).symm
  | false =>
    obtain ⟨ip, hbare, rfl⟩ := h.exists_bare hport
    obtain ⟨ip', hbare', rfl⟩ := h'.exists_bare (hsame ▸ hport)
    have hread := read?_unbracket_eq_some_iff.2 hbare
    rw [read?_unbracket_eq_some_iff.2 hbare'] at hread
    rw [Option.some.inj hread]

end Reading

/-! ## Reading -/

theorem ofEndpoint_eq_ok_iff {e : Endpoint} {d : Destination} :
    ofEndpoint e = .ok d ↔ d.endpoint = e := by
  constructor
  · intro h
    by_cases hport : e.port = 0
    · simp [ofEndpoint, hport] at h
    · simp only [ofEndpoint, hport, dif_neg, not_false_eq_true, Except.ok.injEq] at h
      exact h ▸ rfl
  · rintro rfl
    simp [ofEndpoint, d.port_ne_zero]

theorem ofEndpoint_eq_error_iff {e : Endpoint} {why : Error} :
    ofEndpoint e = .error why ↔ e.port = 0 ∧ why = .zeroPort := by
  by_cases hport : e.port = 0
  · simp [ofEndpoint, hport, eq_comm]
  · simp [ofEndpoint, hport]

section

variable {cs : List Char}

theorem readTrimmed_of_no_reading (h : ∀ form e, ¬Reading cs form e) :
    readTrimmed cs = .error (.malformed (String.ofList cs)) := by
  -- What the reader could take the text for would be a reading of it.
  refine readTrimmed_of_not ?_ ?_
  · intro e he
    obtain ⟨form, -, hreading⟩ := Reading.exists_of_written he
    exact h form e hreading
  · intro ip hip
    obtain ⟨form, hreading⟩ := Reading.exists_of_bare hip
    exact h form _ hreading

/-- A text is read by its reading, if it has one. -/
theorem readTrimmed_cases (cs : List Char) :
    (∃ form e, Reading cs form e ∧ readTrimmed cs = ofEndpoint e) ∨
      (∀ form e, ¬Reading cs form e) ∧
        readTrimmed cs = .error (.malformed (String.ofList cs)) := by
  by_cases h : ∃ form e, Reading cs form e
  · obtain ⟨form, e, hreading⟩ := h
    exact .inl ⟨form, e, hreading, hreading.readTrimmed_eq⟩
  · have hnone : ∀ form e, ¬Reading cs form e := fun form e he => h ⟨form, e, he⟩
    exact .inr ⟨hnone, readTrimmed_of_no_reading hnone⟩

theorem readTrimmed_eq_ok_iff {d : Destination} :
    readTrimmed cs = .ok d ↔ ∃ form, Reading cs form d.endpoint := by
  constructor
  · intro h
    rcases readTrimmed_cases cs with ⟨form, e, hreading, heq⟩ | ⟨-, heq⟩
    · have he : d.endpoint = e := ofEndpoint_eq_ok_iff.1 (heq.symm.trans h)
      exact ⟨form, he ▸ hreading⟩
    · exact absurd (heq.symm.trans h) (by simp)
  · rintro ⟨form, hreading⟩
    exact hreading.readTrimmed_eq.trans (ofEndpoint_eq_ok_iff.2 rfl)

/-- An address alone has the port 80, so that only a text with a port can have the port zero. -/
theorem readTrimmed_eq_zeroPort_iff :
    readTrimmed cs = .error .zeroPort ↔
      ∃ form e, form.hasPort = true ∧ Reading cs form e ∧ e.port = 0 := by
  constructor
  · intro h
    rcases readTrimmed_cases cs with ⟨form, e, hreading, heq⟩ | ⟨-, heq⟩
    · have hzero : e.port = 0 := (ofEndpoint_eq_error_iff.1 (heq.symm.trans h)).1
      refine ⟨form, e, ?_, hreading, hzero⟩
      cases hport : form.hasPort with
      | true => rfl
      | false =>
        obtain ⟨ip, -, rfl⟩ := hreading.exists_bare hport
        rw [Endpoint.port_ofIp] at hzero
        exact absurd hzero (by decide)
    · exact absurd (heq.symm.trans h) (by simp)
  · rintro ⟨form, e, -, hreading, hzero⟩
    exact hreading.readTrimmed_eq.trans (ofEndpoint_eq_error_iff.2 ⟨hzero, rfl⟩)

theorem readTrimmed_eq_malformed_iff {shown : String} :
    readTrimmed cs = .error (.malformed shown) ↔
      (∀ form e, ¬Reading cs form e) ∧ shown = String.ofList cs := by
  constructor
  · intro h
    rcases readTrimmed_cases cs with ⟨form, e, -, heq⟩ | ⟨hnone, heq⟩
    · have hzero := (ofEndpoint_eq_error_iff.1 (heq.symm.trans h)).2
      contradiction
    · have hshown := heq.symm.trans h
      simp only [Except.error.injEq, Error.malformed.injEq] at hshown
      exact ⟨hnone, hshown.symm⟩
  · rintro ⟨hnone, rfl⟩
    exact readTrimmed_of_no_reading hnone

end

/-- A text is read as the endpoint that it names, if it has a reading whose port is not zero. With
the port zero it is refused for its port, and without a reading for what is left of it. The reading
of a text is its only one. -/
theorem ofText_iff_reading (text : String) :
    let inner := trim text.toList
    Trimmed text.toList inner ∧
    (∀ e, (∃ d, ofText text = .ok d ∧ d.endpoint = e) ↔
      e.port ≠ 0 ∧ ∃ form, Reading inner form e) ∧
    (ofText text = .error .zeroPort ↔
      ∃ form e, form.hasPort = true ∧ Reading inner form e ∧ e.port = 0) ∧
    (∀ shown, ofText text = .error (.malformed shown) ↔
      (∀ form e, ¬Reading inner form e) ∧ shown = String.ofList inner) ∧
    ∀ f g e e', Reading inner f e → Reading inner g e' → f = g ∧ e = e' := by
  intro inner
  refine ⟨trimmed_trim _, ?_, readTrimmed_eq_zeroPort_iff, ?_, ?_⟩
  · intro e
    constructor
    · rintro ⟨d, hd, rfl⟩
      exact ⟨d.port_ne_zero, readTrimmed_eq_ok_iff.1 hd⟩
    · rintro ⟨hport, hreading⟩
      exact ⟨⟨e, hport⟩, readTrimmed_eq_ok_iff.2 hreading, rfl⟩
  · intro shown
    exact readTrimmed_eq_malformed_iff
  · intro f g e e' h h'
    exact ⟨h.form_unique h', h.endpoint_unique h'⟩

end Destination
end Egress
