import Egress.Proofs.Owners
import Egress.Proofs.Replies

/-!
# Reorderings — what the order of the entries can change

The host may list its entries in any order. The order decides which of several owners is found, but
not whether there is one. Main statement: in every order of the same entries a verification comes to
the same address or the same failure, and an owner that is the only one is found with the same flags
and the same addresses.
-/

namespace Egress

/-! ## What is said of a name -/

namespace InterfaceEntry

variable {es es' : List InterfaceEntry} {ip : Ip} {name : String}

/-- Where an entry stands says nothing of its name. -/
theorem Qualifies.perm (hperm : es.Perm es') (h : Qualifies es ip name) :
    Qualifies es' ip name := by
  obtain ⟨up, hup, hupName⟩ := h.up
  obtain ⟨brought, hbrought, hbroughtName⟩ := h.brought
  exact ⟨⟨up, hperm.mem_iff.1 hup, hupName⟩, ⟨brought, hperm.mem_iff.1 hbrought, hbroughtName⟩⟩

theorem qualifies_iff_of_perm (hperm : es.Perm es') :
    Qualifies es ip name ↔ Qualifies es' ip name :=
  ⟨Qualifies.perm hperm, Qualifies.perm hperm.symm⟩

/-- No other name qualifies. -/
def OnlyQualifying (es : List InterfaceEntry) (ip : Ip) (name : String) : Prop :=
  ∀ other, Qualifies es ip other ↔ other = name

theorem OnlyQualifying.perm (hperm : es.Perm es') (h : OnlyQualifying es ip name) :
    OnlyQualifying es' ip name :=
  fun other => (qualifies_iff_of_perm hperm).symm.trans (h other)

end InterfaceEntry

/-! ## The interface of a name -/

namespace Interface

open InterfaceEntry

/-- The same interface as far as the order of its entries does not matter. Its index and its link
address are those of its first and of its last entry that has one. -/
structure SameButOrder (i j : Interface) : Prop where
  name : i.name = j.name
  flags : i.flags = j.flags
  nets : i.nets.Perm j.nets

variable {es es' : List InterfaceEntry} {ip : Ip} {i j : Interface}

theorem exists_eq_merge_of_mem_table (h : i ∈ table es) :
    ∃ position, i = merge position i.name (entriesOf i.name es) := by
  obtain ⟨k, hk, rfl⟩ := List.mem_mapIdx.1 h
  exact ⟨k + 1, rfl⟩

theorem foldl_flags_perm (hperm : es.Perm es') (flags : UInt32) :
    es.foldl (fun flags e => flags ||| e.flags) flags =
      es'.foldl (fun flags e => flags ||| e.flags) flags := by
  apply hperm.foldl_eq'
  intro e _ e' _ flags
  rw [UInt32.or_assoc, UInt32.or_comm e.flags, ← UInt32.or_assoc]

theorem sameButOrder_merge (hperm : es.Perm es') (position position' : Nat) (name : String) :
    SameButOrder (merge position name es) (merge position' name es') where
  name := rfl
  flags := foldl_flags_perm hperm 0
  nets := hperm.filterMap _

/-- Two tables of the same entries have the same interface under a name. -/
theorem sameButOrder_of_mem_table (hperm : es.Perm es') (hi : i ∈ table es) (hj : j ∈ table es')
    (hname : i.name = j.name) : SameButOrder i j := by
  obtain ⟨position, hi⟩ := exists_eq_merge_of_mem_table hi
  obtain ⟨position', hj⟩ := exists_eq_merge_of_mem_table hj
  rw [hi, hj, hname]
  exact sameButOrder_merge (hperm.filter _) position position' j.name

/-! ## Owners -/

/-- What the searches for an owner through the entries in two orders have in common. -/
structure OwnersAgree (es : List InterfaceEntry) (ip : Ip) (o o' : Option Interface) : Prop where
  found : o.isSome = o'.isSome
  only : ∀ name, OnlyQualifying es ip name →
    ∃ i i', o = some i ∧ o' = some i' ∧ i.name = name ∧ i.SameButOrder i'

theorem exists_owner?_of_onlyQualifying {name : String} (h : OnlyQualifying es ip name) :
    ∃ i ∈ table es, owner? (table es) ip = some i ∧ i.name = name := by
  obtain ⟨i, hi⟩ := exists_owner?_table_iff.2 ⟨name, (h name).2 rfl⟩
  obtain ⟨hmem, howns⟩ := owns_of_owner? hi
  exact ⟨i, hmem, hi, (h i.name).1 ((owns_iff_qualifies hmem ip).1 howns)⟩

theorem ownersAgree_owner? (hperm : es.Perm es') (ip : Ip) :
    OwnersAgree es ip (owner? (table es) ip) (owner? (table es') ip) where
  found := by
    rw [Bool.eq_iff_iff, Option.isSome_iff_exists, Option.isSome_iff_exists,
      exists_owner?_table_iff, exists_owner?_table_iff]
    simp only [qualifies_iff_of_perm hperm]
  only := by
    intro name honly
    obtain ⟨i, hi, howner, hname⟩ := exists_owner?_of_onlyQualifying honly
    obtain ⟨i', hi', howner', hname'⟩ := exists_owner?_of_onlyQualifying (honly.perm hperm)
    have hsame := sameButOrder_of_mem_table hperm hi hi' (hname.trans hname'.symm)
    exact ⟨i, i', howner, howner', hname, hsame⟩

end Interface

/-! ## Verification -/

namespace Host

/-- The host as it would be with these entries. -/
def listing (host : Host) (es : List InterfaceEntry) : Host :=
  { host with interfaceEntries := .ok es }

end Host

namespace Reply

open InterfaceEntry

/-- What a resolution comes to with the entries in two orders. -/
structure ResolutionsAgree (es : List InterfaceEntry) (result result' : Except Failure Resolution) :
    Prop where
  /-- The same address, or the same failure. -/
  address : result.map Resolution.address = result'.map Resolution.address
  /-- An address that only one name qualifies for is assigned to the interface of that name. -/
  only : ∀ r name, result = .ok r → OnlyQualifying es r.address.ip name →
    ∃ r' i i', result' = .ok r' ∧ r.interface = some i ∧ r'.interface = some i' ∧
      i.name = name ∧ i.SameButOrder i'

theorem resolutionsAgree_of_perm (host : Host) (d : Destination) (reply : Reply)
    {es es' : List InterfaceEntry} (hperm : es.Perm es') :
    ResolutionsAgree es (reply.resolution (host.listing es) d true)
      (reply.resolution (host.listing es') d true) := by
  have howners : ∀ address : SourceAddress, Interface.OwnersAgree es address.ip
      ((host.listing es).owner? address) ((host.listing es').owner? address) :=
    fun address => Interface.ownersAgree_owner? hperm address.ip
  refine ⟨map_address_resolution (fun address => (howners address).found) d true reply, ?_⟩
  intro r name hr honly
  unfold resolution at hr ⊢
  cases hsource : reply.source d with
  | error failure =>
    rw [hsource] at hr
    contradiction
  | ok address =>
    rw [hsource] at hr
    simp only [Except.bind, if_true] at hr ⊢
    cases howner : (host.listing es).owner? address with
    | none =>
      rw [howner] at hr
      contradiction
    | some i =>
      rw [howner] at hr
      cases hr
      obtain ⟨j, j', hj, hj', hname, hsame⟩ := (howners address).only name honly
      rw [howner] at hj
      cases hj
      rw [hj']
      exact ⟨_, i, j', rfl, rfl, rfl, hname, hsame⟩

end Reply

namespace Session

/-- The session with these entries on its host. -/
def listing (s : Session) (es : List InterfaceEntry) : Session :=
  { s with host := s.host.listing es }

/-- The route does not depend on the interfaces. -/
theorem route_listing (s : Session) (es : List InterfaceEntry) :
    (s.listing es).route = s.route := by
  rcases s with ⟨d, prober, host, probes⟩
  cases prober with
  | host => rfl
  | script first others => rfl

/-- Asked with the entries of its host in two orders, a session verifies a source address in both or
in neither, and comes to the same address or the same failure; the same holds of a resolution of
other settings. An accepted address has an owner in both orders or in neither. If a single name is
said to be up and to have the address, its interface is found in both, with the same flags and the
same addresses in some order. -/
theorem entries_in_any_order (s : Session) {es es' : List InterfaceEntry} (hperm : es.Perm es') :
    (∀ request, (request = .check true ∨ ∃ d, request = .settings (.ok d) true) →
      ∃ result result', ((s.listing es).answerRequest request).answer = .resolution result ∧
        ((s.listing es').answerRequest request).answer = .resolution result' ∧
        Reply.ResolutionsAgree es result result') ∧
    ∀ ip address, SourceAddress.ofIp? ip = some address →
      ∃ o o', ((s.listing es).answerRequest (.owner (.ok ip))).answer = .owner o ∧
        ((s.listing es').answerRequest (.owner (.ok ip))).answer = .owner o' ∧
        Interface.OwnersAgree es address.ip o o' := by
  refine ⟨?_, fun ip address hip => ?_⟩
  · rintro request (rfl | ⟨d, rfl⟩)
    · refine ⟨_, _, congrArg Report.answer ((s.listing es).answerRequest_check true),
        congrArg Report.answer ((s.listing es').answerRequest_check true), ?_⟩
      simp only [Resolution.result_resolve, route_listing]
      exact Reply.resolutionsAgree_of_perm s.host s.destination s.route.result hperm
    · refine ⟨_, _, rfl, rfl, ?_⟩
      simp only [Resolution.ofSettings, Resolution.result_resolve]
      exact Reply.resolutionsAgree_of_perm s.host d (s.host.route d).result hperm
  · refine ⟨(s.host.listing es).owner? address, (s.host.listing es').owner? address, ?_, ?_,
      Interface.ownersAgree_owner? hperm address.ip⟩
    · simp [answerRequest, hip, Report.ofRun, listing]
    · simp [answerRequest, hip, Report.ofRun, listing]

/-- In the reverse order the entry that says the interface is up comes first, and the one with the
address last. -/
theorem entries_in_any_order_reversed :
    let es : List InterfaceEntry :=
      [{ name := "eth0", flags := 2, attachment := .address (.v4 ⟨10, 0, 0, 5⟩) none },
        { name := "lo", flags := 9, attachment := .address (.v4 ⟨127, 0, 0, 1⟩) none },
        { name := "eth0", flags := 1, attachment := .address (.v4 ⟨10, 0, 0, 6⟩) none }]
    let s : Session :=
      { destination := default
        prober := .script (.ok (.v6 (.ofIpv4 ⟨10, 0, 0, 5⟩) 40000 0 0)) []
        host := { socketName := .error 9 } }
    es.Perm es.reverse ∧ InterfaceEntry.OnlyQualifying es (.v4 ⟨10, 0, 0, 5⟩) "eth0" ∧
      (∃ result result', ((s.listing es).answerRequest (.check true)).answer = .resolution result ∧
        ((s.listing es.reverse).answerRequest (.check true)).answer = .resolution result' ∧
        Reply.ResolutionsAgree es result result') ∧
      ∃ i i', ((s.listing es).answerRequest (.owner (.ok (.v4 ⟨10, 0, 0, 5⟩)))).answer =
          .owner (some i) ∧
        ((s.listing es.reverse).answerRequest (.owner (.ok (.v4 ⟨10, 0, 0, 5⟩)))).answer =
          .owner (some i') ∧
        i.name = "eth0" ∧ i.SameButOrder i' := by
  intro es s
  have hperm : es.Perm es.reverse := (List.reverse_perm es).symm
  have honly : InterfaceEntry.OnlyQualifying es (.v4 ⟨10, 0, 0, 5⟩) "eth0" := by
    intro other
    constructor
    · intro h
      obtain ⟨e, he, rfl, hbrings⟩ := h.brought
      simp only [es, List.mem_cons, List.not_mem_nil, or_false] at he
      rcases he with rfl | rfl | rfl
      · rfl
      · exact absurd hbrings (by decide)
      · rfl
    · rintro rfl
      decide
  have hagree := entries_in_any_order s hperm
  obtain ⟨o, o', ho, ho', howners⟩ :=
    hagree.2 (.v4 ⟨10, 0, 0, 5⟩) ⟨.v4 ⟨10, 0, 0, 5⟩, rfl, rfl⟩ rfl
  obtain ⟨i, i', rfl, rfl, hname, hsame⟩ := howners.only "eth0" honly
  exact ⟨hperm, honly, hagree.1 _ (.inl rfl), i, i', ho, ho', hname, hsame⟩

end Session
end Egress
