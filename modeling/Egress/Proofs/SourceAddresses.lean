import Egress.Proofs.Spelling
import Egress.SourceAddress
import Egress.Text.Padding

/-!
# SourceAddresses — one form and one text for an address

An address that comes in either of two forms is kept in one of them, and a wildcard in neither. Main
statement: which addresses are source addresses, which of them are the same, and that the text of a
source address tells just that address and fits into a column.
-/

namespace Egress

/-! ## Canonical addresses -/

namespace Ip

/-- An address is left as it is unless it is the IPv6 form of an IPv4 address. -/
theorem canonical_cases (ip : Ip) :
    (ip.canonical = ip ∧ ∀ small, ip ≠ .v6 (.ofIpv4 small)) ∨
      ∃ small, ip = .v6 (.ofIpv4 small) ∧ ip.canonical = .v4 small := by
  cases ip with
  | v4 ip => exact .inl ⟨rfl, by simp⟩
  | v6 ip =>
    cases hembedded : ip.embedded? with
    | none =>
      refine .inl ⟨by simp [canonical, hembedded], fun small hmapped => ?_⟩
      rw [Ip.v6.injEq, ← Ipv6.embedded?_eq_some_iff, hembedded] at hmapped
      contradiction
    | some small =>
      have hmapped : ip = .ofIpv4 small := Ipv6.embedded?_eq_some_iff.1 hembedded
      exact .inr ⟨small, by rw [hmapped], by simp [canonical, hembedded]⟩

theorem canonical_ne_ofIpv4 (ip : Ip) (small : Ipv4) : ip.canonical ≠ .v6 (.ofIpv4 small) := by
  rcases canonical_cases ip with ⟨hself, hne⟩ | ⟨other, -, hcanonical⟩
  · simpa [hself] using hne small
  · simp [hcanonical]

/-- The two forms of an IPv4 address are the only different addresses with the same canonical
form. -/
theorem canonical_eq_canonical_iff {ip ip' : Ip} :
    ip.canonical = ip'.canonical ↔ ip = ip' ∨
      ∃ small, (ip = .v4 small ∧ ip' = .v6 (.ofIpv4 small)) ∨
        (ip = .v6 (.ofIpv4 small) ∧ ip' = .v4 small) := by
  constructor
  · intro h
    rcases canonical_cases ip with ⟨hself, -⟩ | ⟨small, hmapped, hcanonical⟩ <;>
      rcases canonical_cases ip' with ⟨hself', -⟩ | ⟨small', hmapped', hcanonical'⟩
    · exact .inl (by rw [← hself, h, hself'])
    · exact .inr ⟨small', .inl ⟨by rw [← hself, h, hcanonical'], hmapped'⟩⟩
    · exact .inr ⟨small, .inr ⟨hmapped, by rw [← hself', ← h, hcanonical]⟩⟩
    · rw [hcanonical, hcanonical', Ip.v4.injEq] at h
      exact .inl (by rw [hmapped, hmapped', h])
  · rintro (rfl | ⟨small, ⟨rfl, rfl⟩ | ⟨rfl, rfl⟩⟩)
    · rfl
    · rw [canonical_ofIpv4]
      rfl
    · rw [canonical_ofIpv4]
      rfl

theorem isUnspecified_iff {ip : Ip} :
    ip.isUnspecified = true ↔ ip = .v4 ⟨0, 0, 0, 0⟩ ∨ ip = .v6 ⟨List.replicate 8 0, rfl⟩ := by
  cases ip <;> simp [isUnspecified, unspecified, family, Ipv4.unspecified, Ipv6.unspecified]

theorem canonical_isUnspecified_iff {ip : Ip} :
    ip.canonical.isUnspecified = true ↔
      ip = .v4 ⟨0, 0, 0, 0⟩ ∨ ip = .v6 ⟨List.replicate 8 0, rfl⟩ ∨
        ip = .v6 (.ofIpv4 ⟨0, 0, 0, 0⟩) := by
  rw [isUnspecified_iff]
  rcases canonical_cases ip with ⟨hself, hne⟩ | ⟨small, rfl, hcanonical⟩
  · simp [hself, hne]
  · -- Of the addresses in the other form, the IPv4 wildcard alone becomes a wildcard.
    have hzero : Ipv6.ofIpv4 small = .ofIpv4 ⟨0, 0, 0, 0⟩ ↔ small = ⟨0, 0, 0, 0⟩ := by
      rw [← Ipv6.embedded?_eq_some_iff, Ipv6.embedded?_ofIpv4, Option.some.injEq]
    have hgroups : Ipv6.ofIpv4 small ≠ ⟨List.replicate 8 0, rfl⟩ := by
      simp [Ipv6.ofIpv4, List.replicate]
    simp only [hcanonical, Ip.v4.injEq, Ip.v6.injEq, reduceCtorEq, or_false, false_or, hgroups,
      hzero]

end Ip

/-! ## Lengths of texts -/

theorem Ipv4.length_chars_le (ip : Ipv4) : ip.chars.length ≤ 15 := by
  have hoctet : ∀ o : UInt8, (Nat.toDigits 10 o.toNat).length ≤ 3 := fun o =>
    (Nat.length_toDigits_le_iff (by decide) (by decide)).2 (Nat.lt_trans o.toNat_lt (by decide))
  have ha := hoctet ip.a
  have hb := hoctet ip.b
  have hc := hoctet ip.c
  have hd := hoctet ip.d
  simp only [chars, octets, List.map_cons, List.map_nil, List.intercalate_cons_cons,
    List.intercalate_singleton, List.length_append, List.length_singleton]
  omega

namespace Ipv6

/-- Four digits and a colon for each group, and no colon behind the last. -/
theorem length_joinGroups_le (gs : List UInt16) :
    (joinGroups gs).length ≤ 5 * gs.length - 1 := by
  have hgroup : ∀ g : UInt16, (Nat.toDigits 16 g.toNat).length ≤ 4 := fun g =>
    (group_toDigits g).2
  induction gs with
  | nil => simp [joinGroups]
  | cons g gs ih =>
    have hg := hgroup g
    cases gs with
    | nil => simpa [joinGroups] using hg
    | cons h gs =>
      simp only [joinGroups, List.map_cons, List.intercalate_cons_cons, List.length_append,
        List.length_cons, List.length_nil] at ih ⊢
      omega

theorem length_compressed_le (ip : Ipv6) : (compressed ip.groups).length ≤ 39 := by
  by_cases hsize : (zeroRun ip.groups).2 < 2
  · have hall := length_joinGroups_le ip.groups
    rw [ip.length_groups] at hall
    simpa [compressed, hsize] using hall
  · -- At least two of the eight groups are left out.
    have hhead := length_joinGroups_le (ip.groups.take (zeroRun ip.groups).1)
    have htail := length_joinGroups_le
      (ip.groups.drop ((zeroRun ip.groups).1 + (zeroRun ip.groups).2))
    have hsplit := congrArg List.length (eq_take_append_replicate_append_drop ip.groups)
    simp only [List.length_append, List.length_replicate, ip.length_groups] at hsplit
    simp only [compressed, hsize, if_false, List.length_append, List.length_cons,
      List.length_nil]
    omega

theorem length_chars_le (ip : Ipv6) : ip.chars.length ≤ 39 := by
  cases hembedded : ip.embedded? with
  | none => simpa [chars, hembedded] using ip.length_compressed_le
  | some small =>
    have hsmall := small.length_chars_le
    simp only [chars, hembedded, List.length_append, String.length_toList]
    have hlead : "::ffff:".length = 7 := by decide
    omega

/-- Groups and colons have no dot in them. -/
theorem dot_not_mem_compressed (gs : List UInt16) : '.' ∉ compressed gs := by
  have hjoin : ∀ hs : List UInt16, '.' ∉ joinGroups hs := fun hs =>
    (side_joinGroups PlainEnd.group hs).not_mem (fun hend => hend.not_mem (by decide)) (by decide)
      (by decide)
  by_cases hsize : (zeroRun gs).2 < 2
  · simpa [compressed, hsize] using hjoin gs
  · simp [compressed, hsize, hjoin]

end Ipv6

namespace Ip

theorem length_chars_le (ip : Ip) : ip.chars.length ≤ 39 := by
  cases ip with
  | v4 ip => exact Nat.le_trans ip.length_chars_le (by decide)
  | v6 ip => exact ip.length_chars_le

/-- A dot tells the family, unless the address is the IPv6 form of an IPv4 address. -/
theorem dot_mem_chars_iff {ip : Ip} (h : ip.canonical = ip) :
    '.' ∈ ip.chars ↔ ip.family = .v4 := by
  cases ip with
  | v4 ip => simp [chars, family, ip.written_chars.dot_mem]
  | v6 ip =>
    cases hembedded : ip.embedded? with
    | none => simp [chars, family, Ipv6.chars, hembedded, Ipv6.dot_not_mem_compressed]
    | some small => simp [canonical, hembedded] at h

theorem text_eq_text_iff {ip ip' : Ip} : ip.text = ip'.text ↔ ip = ip' := by
  constructor
  · intro h
    have hread := ofText?_text ip
    rw [h, ofText?_text ip'] at hread
    exact (Option.some.inj hread).symm
  · intro h
    rw [h]

end Ip

/-! ## Columns -/

/-- A text without spaces is told from the spaces in front of it. -/
theorem Text.dropWhile_alignRight (width : Nat) {text : String} (h : ' ' ∉ text.toList) :
    (alignRight width text).toList.dropWhile (· = ' ') = text.toList := by
  have hpadding : ∀ c ∈ List.replicate (width - text.toList.length) ' ',
      decide (c = ' ') = true := by
    simp
  rw [alignRight, String.toList_ofList, List.leftpad, List.dropWhile_append_of_pos hpadding]
  cases hcs : text.toList with
  | nil => rfl
  | cons c cs =>
    have hc : c ≠ ' ' := by
      rintro rfl
      exact h (by simp [hcs])
    simp [hc]

/-! ## Source addresses -/

namespace SourceAddress

theorem eq_iff_ip {a b : SourceAddress} : a = b ↔ a.ip = b.ip :=
  ⟨fun h => h ▸ rfl, eq_of_ip_eq⟩

/-- The wildcards of both families, and the IPv4 wildcard in its IPv6 form, are no source addresses.
Every other address is kept in one of its forms, which is specified, not the IPv6 form of an IPv4
address, and kept as it is. Two addresses are kept alike only if they are the two forms of one. The
text of what is kept reads back as it, tells its family, and can be taken out of a column. -/
theorem one_form_one_text :
    (∀ ip, ofIp? ip = none ↔
      ip = .v4 ⟨0, 0, 0, 0⟩ ∨ ip = .v6 ⟨List.replicate 8 0, rfl⟩ ∨
        ip = .v6 (.ofIpv4 ⟨0, 0, 0, 0⟩)) ∧
    (∀ ip address, ofIp? ip = some address →
      address.ip ≠ .v4 ⟨0, 0, 0, 0⟩ ∧ address.ip ≠ .v6 ⟨List.replicate 8 0, rfl⟩ ∧
      (∀ small, address.ip ≠ .v6 (.ofIpv4 small)) ∧
      (address.ip = ip ∨ ∃ small, ip = .v6 (.ofIpv4 small) ∧ address.ip = .v4 small) ∧
      ofIp? address.ip = some address ∧
      Ip.ofText? address.text = some address.ip ∧
      ('.' ∈ address.text.toList ↔ address.family = .v4) ∧
      address.text.length ≤ 39 ∧
      (Text.alignRight 42 address.text).length = 42 ∧
      (Text.alignRight 42 address.text).toList.dropWhile (· = ' ') = address.text.toList) ∧
    ∀ ip ip' address address', ofIp? ip = some address → ofIp? ip' = some address' →
      (address = address' ↔ ip = ip' ∨
        ∃ small, (ip = .v4 small ∧ ip' = .v6 (.ofIpv4 small)) ∨
          (ip = .v6 (.ofIpv4 small) ∧ ip' = .v4 small)) ∧
      (address.text = address'.text ↔ address = address') := by
  refine ⟨fun ip => ?_, fun ip address h => ?_, fun ip ip' address address' h h' => ?_⟩
  · rw [ofIp?_eq_none_iff, Ip.canonical_isUnspecified_iff]
  · have hip : address.ip = ip.canonical := ip_of_ofIp? h
    have hspecified : ¬address.ip.isUnspecified = true := by
      simp [address.not_isUnspecified]
    rw [Ip.isUnspecified_iff, not_or] at hspecified
    have hspaces : ' ' ∉ address.text.toList :=
      address.ip.not_mem_text (by decide) (by decide) (by decide)
    have hlength : address.text.length ≤ 39 := by
      rw [← String.length_toList, text, Ip.toList_text]
      exact address.ip.length_chars_le
    refine ⟨hspecified.1, hspecified.2, ?_, ?_, ofIp?_ip address, address.ip.ofText?_text, ?_,
      hlength, ?_, Text.dropWhile_alignRight 42 hspaces⟩
    · intro small
      rw [hip]
      exact ip.canonical_ne_ofIpv4 small
    · rw [hip]
      rcases ip.canonical_cases with ⟨hself, -⟩ | hmapped
      · exact .inl hself
      · exact .inr hmapped
    · rw [text, Ip.toList_text]
      exact Ip.dot_mem_chars_iff address.canonical_ip
    · rw [Text.length_alignRight]
      omega
  · constructor
    · rw [eq_iff_ip, ip_of_ofIp? h, ip_of_ofIp? h', Ip.canonical_eq_canonical_iff]
    · rw [eq_iff_ip]
      exact Ip.text_eq_text_iff

/-- Beside the IPv6 form of an IPv4 address stands an address that is not taken for one. -/
theorem one_form_one_text_of_neighbours :
    let mapped : Ip := .v6 ⟨[0, 0, 0, 0, 0, 0xffff, 0x0102, 0x0304], rfl⟩
    let compatible : Ip := .v6 ⟨[0, 0, 0, 0, 0, 0, 0x0102, 0x0304], rfl⟩
    ∃ address address', ofIp? mapped = some address ∧ ofIp? compatible = some address' ∧
      '.' ∈ address.text.toList ∧ address.text.length ≤ 39 ∧
      '.' ∉ address'.text.toList ∧ address.text ≠ address'.text := by
  intro mapped compatible
  have hmapped : ofIp? mapped = some ⟨.v4 ⟨1, 2, 3, 4⟩, rfl, rfl⟩ := by decide
  have hcompatible : ofIp? compatible = some ⟨compatible, rfl, rfl⟩ := by decide
  obtain ⟨-, -, -, -, -, -, hdot, hlength, -⟩ := one_form_one_text.2.1 _ _ hmapped
  obtain ⟨-, -, -, -, -, -, hdot', -⟩ := one_form_one_text.2.1 _ _ hcompatible
  obtain ⟨-, htext⟩ := one_form_one_text.2.2 _ _ _ _ hmapped hcompatible
  refine ⟨_, _, hmapped, hcompatible, hdot.2 rfl, hlength, fun h => ?_, fun h => ?_⟩
  · exact absurd (hdot'.1 h) (by decide)
  · exact absurd (htext.1 h) (by decide)

end SourceAddress
end Egress
