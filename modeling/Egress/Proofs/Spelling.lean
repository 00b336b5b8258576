import Egress.Endpoint.Grammar

/-!
# Spelling — printed texts belong to the grammar

What is written for an address or an endpoint is one of the texts that the grammar has for it. The
readers accept exactly the texts of the grammar, so everything that is written reads back.
-/

namespace Egress

open Text

/-! ## IPv4 -/

namespace Ipv4

theorem written_chars (ip : Ipv4) : Written ip.chars ip := by
  have hoctet : ∀ o : UInt8, Octet (Nat.toDigits 10 o.toNat) o := fun o => octet_iff.2 rfl
  have hdotted : Written _ ip :=
    Written.dotted (hoctet ip.a) (hoctet ip.b) (hoctet ip.c) (hoctet ip.d)
  simpa [chars, octets, List.intercalate_cons_cons] using hdotted

end Ipv4

/-! ## IPv6 -/

namespace Ipv6

theorem group_toDigits (g : UInt16) : Group (Nat.toDigits 16 g.toNat) g :=
  readGroup?_eq_some_iff.1 (readGroup?_toDigits g)

section Groups

variable {End : List Char → List UInt16 → Prop}

theorem groups_joinGroups (hend : ∀ {cs g}, Group cs g → End cs [g]) {gs : List UInt16}
    (hne : gs ≠ []) : Groups End (joinGroups gs) gs := by
  -- Joining puts a colon behind every group but the last, and only the last can be an end.
  induction gs with
  | nil =>
    exact absurd rfl hne
  | cons g gs ih =>
    cases gs with
    | nil =>
      have hlast : Groups End (Nat.toDigits 16 g.toNat) [g] :=
        Groups.last (hend (group_toDigits g))
      simpa [joinGroups] using hlast
    | cons h gs =>
      have hcons : Groups End _ (g :: h :: gs) :=
        Groups.cons (group_toDigits g) (ih (by simp))
      simpa [joinGroups, List.intercalate_cons_cons] using hcons

theorem side_joinGroups (hend : ∀ {cs g}, Group cs g → End cs [g]) (gs : List UInt16) :
    Side End (joinGroups gs) gs := by
  by_cases hgs : gs = []
  · subst hgs
    exact Side.empty
  · exact Side.groups (groups_joinGroups hend hgs)

end Groups

/-- Only zeros are left out, and never none. -/
theorem written_compressed (ip : Ipv6) : Written (compressed ip.groups) ip := by
  by_cases hsize : (zeroRun ip.groups).2 < 2
  · -- A single zero is not worth a gap, so all eight groups are there.
    have hne : ip.groups ≠ [] := by
      intro hnil
      simpa [hnil] using ip.length_groups
    have hfull : Written (joinGroups ip.groups) ip :=
      Written.full (groups_joinGroups LastEnd.group hne)
    simpa [compressed, hsize] using hfull
  · -- The gap stands for the run, and what is around the run is written in full.
    have hgap : Written _ ip :=
      Written.gap (side_joinGroups PlainEnd.group _) (side_joinGroups LastEnd.group _)
        (show 0 < (zeroRun ip.groups).2 by omega)
        (eq_take_append_replicate_append_drop ip.groups)
    simpa [compressed, hsize] using hgap

/-- Five zero groups are left out in front of the group `ffff`. -/
theorem written_ofIpv4 (small : Ipv4) :
    Written ("::ffff:".toList ++ small.chars) (ofIpv4 small) := by
  have hgroup : Group ['f', 'f', 'f', 'f'] 0xffff := readGroup?_eq_some_iff.1 (by decide)
  have htail : Groups LastEnd _ (0xffff :: small.words) :=
    Groups.cons hgroup (Groups.last (LastEnd.dotted small.written_chars))
  exact Written.gap Side.empty (Side.groups htail) (show 0 < 5 by decide) rfl

theorem written_chars (ip : Ipv6) : Written ip.chars ip := by
  cases hembedded : ip.embedded? with
  | none =>
    simpa [chars, hembedded] using ip.written_compressed
  | some small =>
    -- The printer goes by the embedded address, the grammar by the groups around it.
    have hmapped := written_ofIpv4 small
    rw [← eq_ofIpv4_of_embedded? hembedded] at hmapped
    simpa [chars, hembedded] using hmapped

end Ipv6

/-! ## Either family -/

namespace Ip

theorem written_chars (ip : Ip) : Written ip.chars ip := by
  cases ip with
  | v4 ip => exact Written.v4 ip.written_chars
  | v6 ip => exact Written.v6 ip.written_chars

/-- Digits, dots and colons are all that an address is written with. -/
theorem not_mem_text {x : Char} (hx : digitValue? x = none) (hdot : x ≠ '.') (hcolon : x ≠ ':')
    (ip : Ip) : x ∉ ip.text.toList := by
  rw [toList_text]
  exact ip.written_chars.not_mem hx hdot hcolon

theorem ofText?_text (ip : Ip) : ofText? ip.text = some ip := by
  rw [ofText?, toList_text]
  exact read?_eq_some_iff.2 ip.written_chars

end Ip

/-! ## Endpoints -/

namespace Endpoint

theorem port_toDigits (port : UInt16) : Port (Nat.toDigits 10 port.toNat) port :=
  numeral_toDigits (by decide) (by decide) port.toNat

theorem scoped_chars (ip : Ipv6) (scope : UInt32) :
    Scoped (ip.chars ++ scopeChars scope) (ip, scope) := by
  by_cases hzero : scope = 0
  · subst hzero
    simpa [scopeChars] using Scoped.bare ip.written_chars
  · -- A scope that is not zero is written, and behind its sign.
    have hscope : Scope (Nat.toDigits 10 scope.toNat) scope :=
      numeral_toDigits (by decide) (by decide) scope.toNat
    simpa [scopeChars, hzero] using Scoped.withScope ip.written_chars hscope

/-- The flow label is what the text leaves out. -/
theorem written_chars (e : Endpoint) : Written e.chars e.withoutFlow := by
  cases e with
  | v4 ip port =>
    exact Written.v4 ip.written_chars (port_toDigits port)
  | v6 ip port scope flow =>
    have hwritten : Written _ (.v6 ip port scope 0) :=
      Written.v6 (scoped_chars ip scope) (port_toDigits port)
    simpa [chars, portChars, withoutFlow] using hwritten

theorem read?_chars (e : Endpoint) : read? e.chars = some e.withoutFlow :=
  read?_eq_some_iff.2 e.written_chars

/-! ### Characters of an endpoint -/

/-- Separators and brackets are the only characters besides digits. -/
theorem Written.not_mem {x : Char} {cs : List Char} {e : Endpoint} (hx : digitValue? x = none)
    (hseparators : x ∉ ['.', ':', '%', '[', ']']) (h : Written cs e) : x ∉ cs := by
  simp only [List.mem_cons, List.not_mem_nil, or_false, not_or] at hseparators
  obtain ⟨hdot, hcolon, hsign, hopen, hclose⟩ := hseparators
  cases h with
  | v4 hip hport =>
    have hhost := hip.not_mem hx hdot
    have hps := hport.not_mem hx
    simp [hhost, hps, hcolon]
  | v6 hinside hport =>
    have hscoped := hinside.not_mem hx hdot hcolon hsign
    have hps := hport.not_mem hx
    simp [hscoped, hps, hcolon, hopen, hclose]

end Endpoint
end Egress
