import Egress.Session
import Mathlib.Data.List.Find
import Mathlib.Data.List.Nodup

/-!
# Owners — the owner of an address, told from the entries

The host lists entries, and what they say of an interface may be scattered: one entry tells that the
interface is up and another, earlier or later, brings the address. Main statement: an address has an
owner exactly if both are said of one name, and the owner is what all entries of the first such name
make up together. A host that refuses to list its entries is as good as one that has none.
-/

namespace Egress

/-! ## What entries say of a name -/

namespace InterfaceEntry

/-- The entry brings this address, and the mask is not too long for it. -/
def Brings (e : InterfaceEntry) (ip : Ip) : Prop :=
  ∃ mask : Option Ip, e.attachment = .address ip mask ∧
    mask.elim 0 Ip.maskLength ≤ Ip.width ip.family

/-- Of this name it is said that it is up, and that it has the address. The two may be said by
different entries, in any order. -/
structure Qualifies (es : List InterfaceEntry) (ip : Ip) (name : String) : Prop where
  up : ∃ e ∈ es, e.name = name ∧ e.flags &&& Interface.upFlag ≠ 0
  brought : ∃ e ∈ es, e.name = name ∧ e.Brings ip

/-- The entry is the first of a name that qualifies. -/
def FirstQualifying (es : List InterfaceEntry) (ip : Ip) (e : InterfaceEntry) : Prop :=
  ∃ before after, es = before ++ e :: after ∧ Qualifies es ip e.name ∧
    ∀ earlier ∈ before, ¬Qualifies es ip earlier.name

theorem exists_net?_iff {e : InterfaceEntry} {ip : Ip} :
    (∃ net, e.net? = some net ∧ net.ip = ip) ↔ e.Brings ip := by
  cases hattachment : e.attachment with
  | link mac =>
    simp [net?, Brings, hattachment]
  | address own mask =>
    constructor
    · rintro ⟨net, hnet, rfl⟩
      simp only [net?, hattachment, Net.ofLength?] at hnet
      split at hnet
      case isTrue hle =>
        cases hnet
        exact ⟨mask, hattachment, hle⟩
      case isFalse => contradiction
    · rintro ⟨mask', heq, hle⟩
      rw [hattachment, Attachment.address.injEq] at heq
      obtain ⟨rfl, rfl⟩ := heq
      exact ⟨⟨own, mask.elim 0 Ip.maskLength, hle⟩, by simp [net?, hattachment, Net.ofLength?, hle],
        rfl⟩

instance (e : InterfaceEntry) (ip : Ip) : Decidable (e.Brings ip) :=
  decidable_of_iff (e.net?.any fun net => net.ip = ip) (by
    rw [← exists_net?_iff, Option.any_eq_true]
    simp)

instance (es : List InterfaceEntry) (ip : Ip) (name : String) : Decidable (Qualifies es ip name) :=
  decidable_of_iff ((∃ e ∈ es, e.name = name ∧ e.flags &&& Interface.upFlag ≠ 0) ∧
      ∃ e ∈ es, e.name = name ∧ e.Brings ip)
    ⟨fun h => ⟨h.1, h.2⟩, fun h => ⟨h.up, h.brought⟩⟩

theorem find?_qualifies_eq_some_iff {es : List InterfaceEntry} {ip : Ip} {e : InterfaceEntry} :
    (es.find? fun e => Qualifies es ip e.name) = some e ↔ FirstQualifying es ip e := by
  simp only [List.find?_eq_some_iff_append, FirstQualifying, decide_eq_true_eq, Bool.not_eq_true',
    decide_eq_false_iff_not]
  constructor
  · rintro ⟨hqualifies, before, after, hsplit, hearlier⟩
    exact ⟨before, after, hsplit, hqualifies, hearlier⟩
  · rintro ⟨before, after, hsplit, hqualifies, hearlier⟩
    exact ⟨hqualifies, before, after, hsplit, hearlier⟩

end InterfaceEntry

/-! ## The entries of one name -/

namespace Interface

open InterfaceEntry

theorem mem_entriesOf {name : String} {es : List InterfaceEntry} {e : InterfaceEntry} :
    e ∈ entriesOf name es ↔ e ∈ es ∧ e.name = name := by
  simp [entriesOf]

/-- A flag is set if some entry sets it, whatever was set before. -/
theorem foldl_flags_and_ne_zero {bits : UInt32} (es : List InterfaceEntry) (flags : UInt32) :
    es.foldl (fun flags e => flags ||| e.flags) flags &&& bits ≠ 0 ↔
      flags &&& bits ≠ 0 ∨ ∃ e ∈ es, e.flags &&& bits ≠ 0 := by
  -- The induction is on the entries for every set of flags that they are added to.
  induction es generalizing flags with
  | nil => simp
  | cons e es ih =>
    have hor : (flags ||| e.flags) &&& bits = (flags &&& bits) ||| (e.flags &&& bits) := by
      simp [← UInt32.toBitVec_inj, BitVec.and_or_distrib_right]
    rw [List.foldl_cons, ih, hor, ne_eq, UInt32.or_eq_zero_iff, not_and_or]
    simp [or_assoc]

theorem owns_iff {i : Interface} {ip : Ip} :
    i.owns ip = true ↔ i.isUp = true ∧ ∃ net ∈ i.nets, net.ip = ip := by
  simp [owns, carries_iff]

/-- What the table says of an interface, told from the entries. -/
structure MadeUpOf (i : Interface) (name : String) (es : List InterfaceEntry) : Prop where
  name_eq : i.name = name
  flags_and : ∀ bits : UInt32,
    i.flags &&& bits ≠ 0 ↔ ∃ e ∈ es, e.name = name ∧ e.flags &&& bits ≠ 0
  nets_eq : i.nets = (es.filter fun e => e.name = name).filterMap InterfaceEntry.net?

theorem madeUpOf_of_mem_table {es : List InterfaceEntry} {i : Interface} (h : i ∈ table es) :
    i.MadeUpOf i.name es := by
  obtain ⟨k, hk, rfl⟩ := List.mem_mapIdx.1 h
  constructor
  case name_eq => rfl
  case flags_and =>
    intro bits
    simp only [merge, foldl_flags_and_ne_zero, mem_entriesOf, and_assoc, UInt32.zero_and, ne_eq,
      not_true_eq_false, false_or]
  case nets_eq => rfl

theorem owns_iff_qualifies {es : List InterfaceEntry} {i : Interface} (h : i ∈ table es) (ip : Ip) :
    i.owns ip = true ↔ Qualifies es ip i.name := by
  have hmade := madeUpOf_of_mem_table h
  have hup : i.isUp = true ↔ ∃ e ∈ es, e.name = i.name ∧ e.flags &&& upFlag ≠ 0 := by
    rw [isUp, decide_eq_true_iff, hmade.flags_and]
  have hbrought : (∃ net ∈ i.nets, net.ip = ip) ↔ ∃ e ∈ es, e.name = i.name ∧ e.Brings ip := by
    rw [hmade.nets_eq]
    constructor
    · rintro ⟨net, hnet, hip⟩
      obtain ⟨e, he, hnet⟩ := List.mem_filterMap.1 hnet
      obtain ⟨hmem, hname⟩ := mem_entriesOf.1 he
      exact ⟨e, hmem, hname, exists_net?_iff.1 ⟨net, hnet, hip⟩⟩
    · rintro ⟨e, hmem, hname, hbrings⟩
      obtain ⟨net, hnet, hip⟩ := exists_net?_iff.2 hbrings
      exact ⟨net, List.mem_filterMap.2 ⟨e, mem_entriesOf.2 ⟨hmem, hname⟩, hnet⟩, hip⟩
  rw [owns_iff, hup, hbrought]
  exact ⟨fun ⟨hup, hbrought⟩ => ⟨hup, hbrought⟩, fun h => ⟨h.up, h.brought⟩⟩

/-! ## First appearance -/

/-- The first of the different names that is looked for is the first of all the names. -/
theorem find?_eraseDups (p : String → Bool) (names : List String) :
    names.eraseDups.find? p = names.find? p := by
  match names with
  | [] => rfl
  | name :: names =>
    have hlt : (names.filter fun other => !other == name).length < names.length + 1 :=
      Nat.lt_succ_of_le (List.length_filter_le _ _)
    rw [List.eraseDups_cons, List.find?_cons, List.find?_cons, find?_eraseDups p (names.filter _),
      List.find?_filter]
    -- A name that was left out equals one in front of it that was not found.
    cases hp : p name with
    | true => rfl
    | false =>
      refine List.find?_congr fun other _ => ?_
      by_cases heq : other = name
      · simp [heq, hp]
      · simp [heq]
termination_by names.length

theorem nodup_eraseDups (names : List String) : names.eraseDups.Nodup := by
  match names with
  | [] => exact List.nodup_nil
  | name :: names =>
    have hlt : (names.filter fun other => !other == name).length < names.length + 1 :=
      Nat.lt_succ_of_le (List.length_filter_le _ _)
    rw [List.eraseDups_cons, List.nodup_cons]
    refine ⟨?_, nodup_eraseDups _⟩
    simp
termination_by names.length

/-- The table has one interface for a name. -/
theorem eq_of_mem_table {es : List InterfaceEntry} {i j : Interface} (hi : i ∈ table es)
    (hj : j ∈ table es) (hname : i.name = j.name) : i = j := by
  have hnodup : ((table es).map (·.name)).Nodup := by
    rw [map_name_table]
    exact nodup_eraseDups _
  exact List.inj_on_of_nodup_map hnodup hi hj hname

/-- The owner has the name that the first entry of a qualifying name has. -/
theorem map_name_owner? (es : List InterfaceEntry) (ip : Ip) :
    (owner? (table es) ip).map (·.name) =
      (es.find? fun e => Qualifies es ip e.name).map (·.name) := by
  -- To own the address is a matter of the name, so the search can be moved over to the names.
  have howner : owner? (table es) ip =
      (table es).find? ((fun name => decide (Qualifies es ip name)) ∘ (·.name)) := by
    refine List.find?_congr fun i hi => ?_
    rw [Bool.eq_iff_iff, owns_iff_qualifies hi ip]
    simp
  calc
    (owner? (table es) ip).map (·.name)
        = ((table es).map (·.name)).find? fun name => Qualifies es ip name := by
          rw [howner, List.find?_map]
    _ = (es.map (·.name)).find? fun name => Qualifies es ip name := by
          rw [map_name_table, names, find?_eraseDups]
    _ = (es.find? fun e => Qualifies es ip e.name).map (·.name) := by
          rw [List.find?_map]
          rfl

/-- The owner is the interface of the first name that qualifies. -/
theorem owner?_table_eq_some_iff {es : List InterfaceEntry} {ip : Ip} {i : Interface} :
    owner? (table es) ip = some i ↔
      i ∈ table es ∧ ∃ e, FirstQualifying es ip e ∧ i.name = e.name := by
  have hname := map_name_owner? es ip
  constructor
  · intro h
    rw [h, Option.map_some, eq_comm, Option.map_eq_some_iff] at hname
    obtain ⟨e, he, hsame⟩ := hname
    exact ⟨List.mem_of_find?_eq_some h, e, find?_qualifies_eq_some_iff.1 he, hsame.symm⟩
  · rintro ⟨hi, e, he, hsame⟩
    rw [find?_qualifies_eq_some_iff.2 he, Option.map_some, Option.map_eq_some_iff] at hname
    obtain ⟨j, hj, hother⟩ := hname
    rw [hj, eq_of_mem_table hi (List.mem_of_find?_eq_some hj) (hsame.trans hother.symm)]

theorem exists_owner?_table_iff {es : List InterfaceEntry} {ip : Ip} :
    (∃ i, owner? (table es) ip = some i) ↔ ∃ name, Qualifies es ip name := by
  simp only [owner?, ← Option.isSome_iff_exists, List.find?_isSome]
  constructor
  · rintro ⟨i, hi, howns⟩
    exact ⟨i.name, (owns_iff_qualifies hi ip).1 howns⟩
  · rintro ⟨name, hqualifies⟩
    -- A name that something is said of has its place in the table.
    obtain ⟨e, he, hname, -⟩ := hqualifies.up
    have hmem : name ∈ (table es).map (·.name) := by
      rw [map_name_table, names, List.mem_eraseDups]
      exact List.mem_map.2 ⟨e, he, hname⟩
    obtain ⟨i, hi, rfl⟩ := List.mem_map.1 hmem
    exact ⟨i, hi, (owns_iff_qualifies hi ip).2 hqualifies⟩

end Interface

/-! ## The owner of an address -/

namespace Resolution

open InterfaceEntry

/-- Whether an address has an owner, and which, can be told from the entries as they are listed. The
entries of the owner's name make it up, with the flags of all and the addresses that fit, in their
order. A refusal to list the entries leads to the same as an empty list, also in the log. -/
theorem owner_told_by_entries (host : Host) (es : List InterfaceEntry) (address : SourceAddress) :
    let listing : Host := { host with interfaceEntries := .ok es }
    let result := (owner listing address).result
    ((∃ i, result = .ok (some i)) ↔ ∃ name, Qualifies es address.ip name) ∧
    (∀ i, result = .ok (some i) ↔
      i ∈ Interface.table es ∧ ∃ e, FirstQualifying es address.ip e ∧ i.name = e.name) ∧
    (∀ i ∈ Interface.table es, i.MadeUpOf i.name es) ∧
    ((¬∃ name, Qualifies es address.ip name) → result = .ok none) ∧
    ∀ errno, owner { host with interfaceEntries := .error errno } address =
      owner { host with interfaceEntries := .ok [] } address := by
  intro listing result
  have hresult : result = .ok (Interface.owner? (Interface.table es) address.ip) := rfl
  have hsome : ∀ i, result = .ok (some i) ↔
      Interface.owner? (Interface.table es) address.ip = some i := by
    intro i
    rw [hresult, Except.ok.injEq]
  refine ⟨?_, ?_, ?_, ?_, ?_⟩
  · simp only [hsome, Interface.exists_owner?_table_iff]
  · intro i
    rw [hsome, Interface.owner?_table_eq_some_iff]
  · intro i hi
    exact Interface.madeUpOf_of_mem_table hi
  · intro hnone
    rw [← Interface.exists_owner?_table_iff, ← Option.isSome_iff_exists,
      Option.not_isSome_iff_eq_none] at hnone
    rw [hresult, hnone]
  · intro errno
    rfl

/-- The first name wins, though the other one has both in a single entry. -/
theorem owner_told_by_scattered_entries :
    let es : List InterfaceEntry :=
      [{ name := "eth0", flags := 2,
         attachment := .address (.v4 ⟨10, 0, 0, 5⟩) (some (.v4 ⟨255, 255, 255, 0⟩)) },
        { name := "lo", flags := 1, attachment := .address (.v4 ⟨10, 0, 0, 5⟩) none },
        { name := "eth0", flags := 1 }]
    FirstQualifying es (.v4 ⟨10, 0, 0, 5⟩) es[0] ∧
      ∃ i, (owner { socketName := .error 9, interfaceEntries := .ok es }
          ⟨.v4 ⟨10, 0, 0, 5⟩, rfl, rfl⟩).result = .ok (some i) ∧
        i.name = "eth0" ∧ i.flags = 3 := by
  intro es
  have hfirst : FirstQualifying es (.v4 ⟨10, 0, 0, 5⟩) es[0] :=
    ⟨[], es.tail, rfl, by decide, by simp⟩
  have htold := owner_told_by_entries { socketName := .error 9 } es ⟨.v4 ⟨10, 0, 0, 5⟩, rfl, rfl⟩
  exact ⟨hfirst, _, (htold.2.1 _).2 ⟨List.mem_cons_self, _, hfirst, rfl⟩, rfl, by decide⟩

end Resolution
end Egress
