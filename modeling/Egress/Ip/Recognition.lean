import Egress.Ip.Grammar
import Egress.Ip.Reader

/-!
# Recognising IP addresses

Main statements: the readers of both families accept exactly the texts of the grammar, each with the
address that it is put together from.
-/

namespace Egress

open Text

/-! ## IPv4 -/

namespace Ipv4

theorem readOctet?_eq_some_iff {cs : List Char} {o : UInt8} :
    readOctet? cs = some o ↔ Octet cs o := by
  rw [octet_iff]
  constructor
  · intro h
    simp only [readOctet?, Option.bind_eq_some_iff] at h
    obtain ⟨n, -, h⟩ := h
    split at h
    · rename_i hn
      cases h
      rw [UInt8.toNat_ofNat', Nat.mod_eq_of_lt hn.1]
      exact hn.2
    · contradiction
  · rintro rfl
    exact readOctet?_toDigits o

theorem written_of_read? {cs : List Char} {ip : Ipv4} (h : read? cs = some ip) :
    Written cs ip := by
  have hsplit : ['.'].intercalate (cs.splitOn '.') = cs := List.intercalate_splitOn '.'
  simp only [read?] at h
  split at h
  · rename_i a b c d hpieces
    rw [hpieces] at hsplit
    simp only [Option.bind_eq_bind, Option.bind_eq_some_iff, readOctet?_eq_some_iff,
      Option.pure_def, Option.some.injEq] at h
    obtain ⟨oa, ha, ob, hb, oc, hc, od, hd, rfl⟩ := h
    simpa [← hsplit, List.intercalate_cons_cons] using Written.dotted ha hb hc hd
  · contradiction

theorem read?_of_written {cs : List Char} {ip : Ipv4} (h : Written cs ip) :
    read? cs = some ip := by
  cases h with
  | dotted ha hb hc hd =>
    have hdot : digitValue? '.' = none := by decide
    simp only [read?, List.splitOn_append_cons_self_of_not_mem (ha.not_mem hdot),
      List.splitOn_append_cons_self_of_not_mem (hb.not_mem hdot),
      List.splitOn_append_cons_self_of_not_mem (hc.not_mem hdot),
      List.splitOn_eq_singleton (hd.not_mem hdot), readOctet?_eq_some_iff.2 ha,
      readOctet?_eq_some_iff.2 hb, readOctet?_eq_some_iff.2 hc, readOctet?_eq_some_iff.2 hd]
    rfl

theorem read?_eq_some_iff {cs : List Char} {ip : Ipv4} : read? cs = some ip ↔ Written cs ip :=
  ⟨written_of_read?, read?_of_written⟩

end Ipv4

namespace Ipv6

/-! ## Ends of a list of groups -/

theorem readGroup?_eq_some_iff {cs : List Char} {g : UInt16} :
    readGroup? cs = some g ↔ Group cs g := by
  simp only [readGroup?]
  constructor
  · intro h
    split at h
    · rename_i hlength
      obtain ⟨n, hn, rfl⟩ := Option.map_eq_some_iff.1 h
      have hnumeral := (readDigits?_eq_some_iff (Nat.le_refl 16)).1 hn
      have hlt : n < 2 ^ 16 :=
        Nat.lt_of_lt_of_le hnumeral.lt_pow (Nat.pow_le_pow_right (show 0 < 16 by decide) hlength)
      refine ⟨?_, hlength⟩
      rwa [UInt16.toNat_ofNat', Nat.mod_eq_of_lt hlt]
    · contradiction
  · rintro ⟨hnumeral, hlength⟩
    simp [hlength, (readDigits?_eq_some_iff (Nat.le_refl 16)).2 hnumeral]

/-- The reader takes the ends of this kind, each of which is one piece between colons. -/
structure ReadsEnds (readEnd? : List Char → Option (List UInt16))
    (End : List Char → List UInt16 → Prop) : Prop where
  read_iff : ∀ {cs gs}, readEnd? cs = some gs ↔ End cs gs
  ne_nil : ∀ {cs gs}, End cs gs → cs ≠ []
  colon_not_mem : ∀ {cs gs}, End cs gs → ':' ∉ cs

theorem readsEnds_plain : ReadsEnds readPlainEnd? PlainEnd where
  read_iff := by
    intro cs gs
    simp only [readPlainEnd?, Option.map_eq_some_iff, readGroup?_eq_some_iff]
    constructor
    · rintro ⟨g, hg, rfl⟩
      exact .group hg
    · rintro ⟨hg⟩
      exact ⟨_, hg, rfl⟩
  ne_nil := by
    rintro cs gs ⟨hg⟩
    exact hg.1.ne_nil
  colon_not_mem := by
    rintro cs gs ⟨hg⟩
    exact hg.not_mem (by decide)

/-- A group has no dot in it. -/
theorem read?_eq_none_of_group {cs : List Char} {g : UInt16} (hg : Group cs g) :
    Ipv4.read? cs = none :=
  Option.eq_none_iff_forall_ne_some.2 fun _ hip =>
    hg.not_mem (by decide) (Ipv4.read?_eq_some_iff.1 hip).dot_mem

theorem readsEnds_last : ReadsEnds readLastEnd? LastEnd where
  read_iff := by
    intro cs gs
    rw [readLastEnd?]
    constructor
    · intro h
      rcases Option.or_eq_some_iff.1 h with h | ⟨-, h⟩
      · obtain ⟨ip, hip, rfl⟩ := Option.map_eq_some_iff.1 h
        exact .dotted (Ipv4.read?_eq_some_iff.1 hip)
      · obtain ⟨hg⟩ := readsEnds_plain.read_iff.1 h
        exact .group hg
    · rintro (hg | hip)
      · rw [read?_eq_none_of_group hg]
        exact readsEnds_plain.read_iff.2 (.group hg)
      · simp [Ipv4.read?_eq_some_iff.2 hip]
  ne_nil := by
    rintro cs gs (hg | hip)
    · exact hg.1.ne_nil
    · exact List.ne_nil_of_mem hip.dot_mem
  colon_not_mem := by
    rintro cs gs (hg | hip)
    · exact hg.not_mem (by decide)
    · exact hip.not_mem (by decide) (by decide)

/-! ## Lists of groups -/

section Groups

variable {readEnd? : List Char → Option (List UInt16)} {End : List Char → List UInt16 → Prop}
  {cs : List Char} {gs : List UInt16}

theorem groups_of_readPieces? (hends : ReadsEnds readEnd? End) {ps : List (List Char)}
    (h : readPieces? readEnd? ps = some gs) : Groups End ([':'].intercalate ps) gs := by
  fun_induction readPieces? readEnd? ps generalizing gs with
  | case1 => contradiction
  | case2 p => simpa using Groups.last (hends.read_iff.1 h)
  | case3 p ps hps ih =>
    simp only [Option.bind_eq_bind, Option.bind_eq_some_iff, Option.pure_def,
      Option.some.injEq] at h
    obtain ⟨g, hg, gs, hgs, rfl⟩ := h
    have hcons := Groups.cons (readGroup?_eq_some_iff.1 hg) (ih hgs)
    rw [List.intercalate_cons_of_ne_nil (by simpa using hps)]
    simpa using hcons

theorem readGroups?_of_groups (hends : ReadsEnds readEnd? End) (h : Groups End cs gs) :
    readGroups? readEnd? cs = some gs := by
  induction h with
  | last h =>
    simp [readGroups?, List.splitOn_eq_singleton (hends.colon_not_mem h), readPieces?,
      hends.read_iff.2 h]
  | @cons p cs g gs hg _ ih =>
    rw [readGroups?] at ih ⊢
    rw [List.splitOn_append_cons_self_of_not_mem (hg.not_mem (by decide))]
    cases hpieces : cs.splitOn ':' with
    | nil => exact absurd hpieces (List.splitOn_ne_nil ':' cs)
    | cons q qs =>
      rw [hpieces] at ih
      simp [readPieces?, readGroup?_eq_some_iff.2 hg, ih]

theorem readGroups?_eq_some_iff (hends : ReadsEnds readEnd? End) :
    readGroups? readEnd? cs = some gs ↔ Groups End cs gs := by
  constructor
  · intro h
    have hgroups := groups_of_readPieces? hends h
    rwa [List.intercalate_splitOn] at hgroups
  · exact readGroups?_of_groups hends

/-- A list of groups starts with a character, and not with a colon. -/
theorem Groups.exists_cons (hends : ReadsEnds readEnd? End) (h : Groups End cs gs) :
    ∃ c rest, cs = c :: rest ∧ c ≠ ':' := by
  have hpiece : ∀ p rest : List Char, p ≠ [] → ':' ∉ p →
      ∃ c cs, p ++ rest = c :: cs ∧ c ≠ ':' := by
    intro p rest hp hcolon
    cases p with
    | nil => contradiction
    | cons c cs => exact ⟨c, cs ++ rest, rfl, fun h => hcolon (by simp [h])⟩
  cases h with
  | last h => simpa using hpiece cs [] (hends.ne_nil h) (hends.colon_not_mem h)
  | @cons p cs g gs hg => exact hpiece p (':' :: cs) hg.1.ne_nil (hg.not_mem (by decide))

theorem readSide?_eq_some_iff (hends : ReadsEnds readEnd? End) :
    readSide? readEnd? cs = some gs ↔ Side End cs gs := by
  simp only [readSide?]
  constructor
  · intro h
    split at h
    · rename_i hcs
      cases h
      exact hcs ▸ .empty
    · exact .groups ((readGroups?_eq_some_iff hends).1 h)
  · rintro (_ | hgroups)
    · simp
    · obtain ⟨c, rest, rfl, -⟩ := hgroups.exists_cons hends
      simpa using (readGroups?_eq_some_iff hends).2 hgroups

end Groups

/-! ## The gap -/

theorem eq_append_of_splitAtGap? {cs before after : List Char}
    (h : splitAtGap? cs = some (before, after)) : cs = before ++ ':' :: ':' :: after := by
  fun_induction splitAtGap? cs generalizing before with
  | case1 => contradiction
  | case2 => contradiction
  | case3 c d cs hcolons =>
    cases h
    simp [hcolons]
  | case4 c d cs _ ih =>
    obtain ⟨⟨rest, _⟩, hrest, hpair⟩ := Option.map_eq_some_iff.1 h
    cases hpair
    simp [ih hrest]

theorem splitAtGap?_cons {c : Char} {cs : List Char} (h : c = ':' → cs.head? ≠ some ':') :
    splitAtGap? (c :: cs) =
      (splitAtGap? cs).map fun (before, after) => (c :: before, after) := by
  cases cs with
  | nil => rfl
  | cons d cs =>
    have hcolons : ¬(c = ':' ∧ d = ':') := fun ⟨hc, hd⟩ => h hc (by simp [hd])
    rw [splitAtGap?, if_neg hcolons]

theorem splitAtGap?_append {p : List Char} (h : ':' ∉ p) (cs : List Char) :
    splitAtGap? (p ++ cs) =
      (splitAtGap? cs).map fun (before, after) => (p ++ before, after) := by
  induction p with
  | nil => simp
  | cons c p ih =>
    obtain ⟨hc, hp⟩ := List.ne_and_not_mem_of_not_mem_cons h
    rw [List.cons_append, splitAtGap?_cons fun heq => absurd heq.symm hc, ih hp, Option.map_map]
    rfl

/-- There is no gap within a list of groups, nor at its end. -/
theorem Groups.splitAtGap?_append {readEnd? : List Char → Option (List UInt16)}
    {End : List Char → List UInt16 → Prop} {cs : List Char} {gs : List UInt16}
    (hends : ReadsEnds readEnd? End) (h : Groups End cs gs) (rest : List Char) :
    splitAtGap? (cs ++ rest) =
      (splitAtGap? rest).map fun (before, after) => (cs ++ before, after) := by
  induction h with
  | last h => exact Ipv6.splitAtGap?_append (hends.colon_not_mem h) rest
  | cons hg hgs ih =>
    obtain ⟨c, cs, rfl, hc⟩ := hgs.exists_cons hends
    rw [List.append_assoc, Ipv6.splitAtGap?_append (hg.not_mem (by decide)) _, List.cons_append,
      splitAtGap?_cons fun _ => by simpa using hc, ih, Option.map_map, Option.map_map]
    simp [Function.comp_def]

theorem fillGap?_eq_some_iff {head tail : List UInt16} {ip : Ipv6} :
    fillGap? head tail = some ip ↔
      ∃ missing, 0 < missing ∧ ip.groups = head ++ List.replicate missing 0 ++ tail := by
  constructor
  · intro h
    simp only [fillGap?] at h
    split at h
    · rename_i hlt
      refine ⟨8 - (head.length + tail.length), by omega, ?_⟩
      simp only [ofGroups?] at h
      split at h
      · cases h
        rfl
      · contradiction
    · contradiction
  · rintro ⟨missing, hmissing, hgroups⟩
    have hlength := congrArg List.length hgroups
    simp only [ip.length_groups, List.length_append, List.length_replicate] at hlength
    have hcount : 8 - (head.length + tail.length) = missing := by omega
    rw [fillGap?, if_pos (by omega), hcount, ← hgroups, ofGroups?_groups]

/-! ## Addresses -/

theorem written_of_read? {cs : List Char} {ip : Ipv6} (h : read? cs = some ip) :
    Written cs ip := by
  simp only [read?] at h
  split at h
  · obtain ⟨gs, hgs, hip⟩ := Option.bind_eq_some_iff.1 h
    simp only [ofGroups?] at hip
    split at hip
    · cases hip
      exact .full ((readGroups?_eq_some_iff readsEnds_last).1 hgs)
    · contradiction
  · rename_i before after hgap
    simp only [Option.bind_eq_bind, Option.bind_eq_some_iff,
      readSide?_eq_some_iff readsEnds_plain, readSide?_eq_some_iff readsEnds_last] at h
    obtain ⟨head, hhead, tail, htail, hip⟩ := h
    obtain ⟨missing, hmissing, hgroups⟩ := fillGap?_eq_some_iff.1 hip
    rw [eq_append_of_splitAtGap? hgap]
    exact .gap hhead htail hmissing hgroups

theorem splitAtGap?_gap {before after : List Char} {head : List UInt16}
    (h : Side PlainEnd before head) :
    splitAtGap? (before ++ ':' :: ':' :: after) = some (before, after) := by
  cases h with
  | empty => simp [splitAtGap?]
  | groups h => simp [h.splitAtGap?_append readsEnds_plain, splitAtGap?]

theorem read?_of_written {cs : List Char} {ip : Ipv6} (h : Written cs ip) :
    read? cs = some ip := by
  cases h with
  | full hgroups =>
    have hgap : splitAtGap? cs = none := by
      simpa [splitAtGap?] using hgroups.splitAtGap?_append readsEnds_last []
    simp [read?, hgap, (readGroups?_eq_some_iff readsEnds_last).2 hgroups, ofGroups?_groups]
  | gap hhead htail hmissing hgroups =>
    simp [read?, splitAtGap?_gap hhead, (readSide?_eq_some_iff readsEnds_plain).2 hhead,
      (readSide?_eq_some_iff readsEnds_last).2 htail,
      fillGap?_eq_some_iff.2 ⟨_, hmissing, hgroups⟩]

theorem read?_eq_some_iff {cs : List Char} {ip : Ipv6} : read? cs = some ip ↔ Written cs ip :=
  ⟨written_of_read?, read?_of_written⟩

end Ipv6

/-! ## Either family -/

namespace Ip

theorem read?_eq_some_iff {cs : List Char} {ip : Ip} : read? cs = some ip ↔ Written cs ip := by
  rw [read?]
  constructor
  · intro h
    rcases Option.or_eq_some_iff.1 h with h | ⟨-, h⟩
    · obtain ⟨small, hsmall, rfl⟩ := Option.map_eq_some_iff.1 h
      exact .v4 (Ipv4.read?_eq_some_iff.1 hsmall)
    · obtain ⟨large, hlarge, rfl⟩ := Option.map_eq_some_iff.1 h
      exact .v6 (Ipv6.read?_eq_some_iff.1 hlarge)
  · rintro (h | h)
    · simp [Ipv4.read?_eq_some_iff.2 h]
    · -- A colon tells an IPv6 address from an IPv4 address.
      have hnone : Ipv4.read? cs = none := Option.eq_none_iff_forall_ne_some.2 fun _ hsmall =>
        (Ipv4.read?_eq_some_iff.1 hsmall).not_mem (by decide) (by decide) h.colon_mem
      simp [hnone, Ipv6.read?_eq_some_iff.2 h]

end Ip
end Egress
