import Egress.Proofs.Owners
import Mathlib.Data.List.Forall2

/-!
# Searches — which interface a search finds, and what it takes no notice of

A search goes through the interfaces in their order, passes over those that are down, and compares
addresses as they are. Main statement: it finds the first interface that is up and carries the
address. Lengths of masks, repeated addresses and whatever is down make no difference to it, and
what stands behind the owner does not either.
-/

namespace Egress
namespace Interface

/-! ## Positions -/

/-- The interface at this position is up. -/
def UpAt (is : List Interface) (k : Nat) : Prop := ∃ i, is[k]? = some i ∧ i.isUp = true

variable {is is' : List Interface} {ip : Ip} {k : Nat}

theorem exists_owns_iff :
    (∃ i, is[k]? = some i ∧ i.owns ip = true) ↔ k ∈ carriers is ip ∧ UpAt is k := by
  rw [mem_carriers_iff]
  constructor
  · rintro ⟨i, hi, howns⟩
    simp only [owns, Bool.and_eq_true] at howns
    exact ⟨⟨i, hi, howns.2⟩, i, hi, howns.1⟩
  · rintro ⟨⟨i, hi, hcarries⟩, j, hj, hup⟩
    cases hi.symm.trans hj
    exact ⟨i, hi, by simp [owns, hup, hcarries]⟩

theorem ownerIndex?_eq_some_iff :
    ownerIndex? is ip = some k ↔
      (∃ i, is[k]? = some i ∧ i.owns ip = true) ∧
        ∀ j < k, ∀ i, is[j]? = some i → i.owns ip = false := by
  rw [ownerIndex?, List.findIdx?_eq_some_iff_getElem]
  constructor
  · rintro ⟨hk, howns, hfirst⟩
    refine ⟨⟨is[k], List.getElem?_eq_getElem hk, howns⟩, fun j hj i hi => ?_⟩
    obtain ⟨hlt, rfl⟩ := List.getElem?_eq_some_iff.1 hi
    simpa using hfirst j hj
  · rintro ⟨⟨i, hi, howns⟩, hfirst⟩
    obtain ⟨hk, rfl⟩ := List.getElem?_eq_some_iff.1 hi
    refine ⟨hk, howns, fun j hj => ?_⟩
    have hlt : j < is.length := Nat.lt_trans hj hk
    simpa using hfirst j hj is[j] (List.getElem?_eq_getElem hlt)

/-- The owner is the first of the carriers that are up. -/
theorem ownerIndex?_eq_some_iff_least :
    ownerIndex? is ip = some k ↔
      k ∈ carriers is ip ∧ UpAt is k ∧ ∀ j ∈ carriers is ip, UpAt is j → k ≤ j := by
  rw [ownerIndex?_eq_some_iff, exists_owns_iff, and_assoc]
  refine and_congr_right fun _ => and_congr_right fun _ => ?_
  constructor
  · intro hfirst j hcarries hup
    obtain ⟨i, hi, howns⟩ := exists_owns_iff.2 ⟨hcarries, hup⟩
    by_contra hlt
    simp [hfirst j (Nat.lt_of_not_le hlt) i hi] at howns
  · intro hleast j hj i hi
    by_contra howns
    rw [Bool.not_eq_false] at howns
    obtain ⟨hcarries, hup⟩ := exists_owns_iff.1 ⟨i, hi, howns⟩
    exact Nat.not_lt_of_le (hleast j hcarries hup) hj

theorem owner?_eq_some_iff {i : Interface} :
    owner? is ip = some i ↔ ∃ k, ownerIndex? is ip = some k ∧ is[k]? = some i := by
  rw [owner?_eq_getElem?, Option.bind_eq_some_iff]

theorem owner?_eq_none_iff_carriers :
    owner? is ip = none ↔ ∀ k ∈ carriers is ip, ¬UpAt is k := by
  rw [owner?, List.find?_eq_none]
  constructor
  · intro hnone k hcarries hup
    obtain ⟨i, hi, howns⟩ := exists_owns_iff.2 ⟨hcarries, hup⟩
    exact hnone i (List.mem_of_getElem? hi) howns
  · intro hnone i hi howns
    obtain ⟨k, hk⟩ := List.mem_iff_getElem?.1 hi
    obtain ⟨hcarries, hup⟩ := exists_owns_iff.1 ⟨i, hk, howns⟩
    exact hnone k hcarries hup

/-! ## Changes without notice -/

/-- Changes to the addresses of an interface: other lengths of their masks, another order or number
of each, and any change at all where the interface is down. -/
inductive Reworked (i : Interface) : Interface → Prop
  | lengths {nets : List Net} :
      nets.map Net.ip = i.nets.map Net.ip → Reworked i { i with nets }
  | repeats {nets : List Net} :
      (∀ net, net ∈ nets ↔ net ∈ i.nets) → Reworked i { i with nets }
  | down {nets : List Net} :
      i.isUp = false → Reworked i { i with nets }

/-- The interface less one address, whatever the length of its mask. -/
def without (ip : Ip) (i : Interface) : Interface :=
  { i with nets := i.nets.filter fun net => net.ip ≠ ip }

theorem Reworked.owns_eq {i j : Interface} (h : Reworked i j) (ip : Ip) :
    j.owns ip = i.owns ip := by
  rw [Bool.eq_iff_iff, owns_iff, owns_iff]
  cases h with
  | lengths hips =>
    refine and_congr_right fun _ => ?_
    simpa only [List.mem_map] using iff_of_eq (congrArg (ip ∈ ·) hips)
  | repeats hmem => simp only [isUp, hmem]
  | down hdown =>
    -- An interface that is down owns nothing, before and after.
    have hstill : ∀ nets : List Net, ({ i with nets } : Interface).isUp = false := fun _ => hdown
    simp [hdown, hstill]

/-- Only exact addresses count, so that one can be taken away without notice to the others. -/
theorem owns_without {other : Ip} (h : ip ≠ other) (i : Interface) :
    (i.without other).owns ip = i.owns ip := by
  rw [Bool.eq_iff_iff, owns_iff, owns_iff]
  refine and_congr_right fun _ => ?_
  constructor
  · rintro ⟨net, hnet, hip⟩
    exact ⟨net, (List.mem_filter.1 hnet).1, hip⟩
  · rintro ⟨net, hnet, rfl⟩
    exact ⟨net, List.mem_filter.2 ⟨hnet, by simpa using h⟩, rfl⟩

/-- A search only sees which of the interfaces own the address. -/
theorem ownerIndex?_congr (h : List.Forall₂ (fun i j => j.owns ip = i.owns ip) is is') :
    ownerIndex? is' ip = ownerIndex? is ip := by
  induction h with
  | nil => rfl
  | @cons i j is is' howns _ ih =>
    simp only [ownerIndex?] at ih
    rw [ownerIndex?, ownerIndex?, List.findIdx?_cons, List.findIdx?_cons, howns, ih]

theorem ownerIndex?_without {other : Ip} (h : ip ≠ other) (is : List Interface) :
    ownerIndex? (is.map (without other)) ip = ownerIndex? is ip := by
  refine ownerIndex?_congr ?_
  rw [List.forall₂_map_right_iff, List.forall₂_same]
  exact fun i _ => owns_without h i

/-! ## Parts of the list -/

theorem owner?_filter_isUp (is : List Interface) (ip : Ip) :
    owner? (is.filter isUp) ip = owner? is ip := by
  have howns : ∀ i : Interface, decide (i.isUp = true ∧ i.owns ip = true) = i.owns ip := by
    intro i
    rw [Bool.eq_iff_iff, decide_eq_true_iff]
    exact and_iff_right_of_imp fun h => (owns_iff.1 h).1
  simp only [owner?, List.find?_filter, howns]

theorem owner?_append (is more : List Interface) (ip : Ip) :
    owner? (is ++ more) ip = (owner? is ip).or (owner? more ip) :=
  List.find?_append

/-- A search finds the interface at the least position that is up and carries the address, and
nothing if there is none. It does not notice changes to masks, to the order and number of addresses,
and to what is down, which may also be left out or put in. It goes on to a second list only if the
first one has no owner. An IPv4 address and its form in IPv6 are not told by each other. -/
theorem owner_first_up_carrier (is : List Interface) (ip : Ip) :
    (∀ i, owner? is ip = some i ↔ ∃ k, ownerIndex? is ip = some k ∧ is[k]? = some i) ∧
    (∀ k, ownerIndex? is ip = some k ↔
      k ∈ carriers is ip ∧ UpAt is k ∧ ∀ j ∈ carriers is ip, UpAt is j → k ≤ j) ∧
    (∀ k, k ∈ carriers is ip ↔ ∃ i, is[k]? = some i ∧ ∃ net ∈ i.nets, net.ip = ip) ∧
    (owner? is ip = none ↔ ∀ k ∈ carriers is ip, ¬UpAt is k) ∧
    (∀ is', List.Forall₂ Reworked is is' → ownerIndex? is' ip = ownerIndex? is ip) ∧
    (∀ is' : List Interface, is'.filter isUp = is.filter isUp → owner? is' ip = owner? is ip) ∧
    (∀ more, owner? (is ++ more) ip = (owner? is ip).or (owner? more ip)) ∧
    (∀ i more, owner? is ip = some i → owner? (is ++ more) ip = some i) ∧
    ∀ a : Ipv4,
      ownerIndex? (is.map (without (.v6 (.ofIpv4 a)))) (.v4 a) = ownerIndex? is (.v4 a) ∧
      ownerIndex? (is.map (without (.v4 a))) (.v6 (.ofIpv4 a)) =
        ownerIndex? is (.v6 (.ofIpv4 a)) := by
  refine ⟨fun _ => owner?_eq_some_iff, fun _ => ownerIndex?_eq_some_iff_least, fun k => ?_,
    owner?_eq_none_iff_carriers, fun is' h => ?_, fun is' h => ?_, fun more => ?_,
    fun i more h => ?_, fun a => ⟨?_, ?_⟩⟩
  · simp only [mem_carriers_iff, carries_iff]
  · exact ownerIndex?_congr (h.imp fun i j hij => hij.owns_eq ip)
  · rw [← owner?_filter_isUp is', h, owner?_filter_isUp]
  · exact owner?_append is more ip
  · rw [owner?_append, h, Option.some_or]
  · exact ownerIndex?_without (by simp) is
  · exact ownerIndex?_without (by simp) is

/-- The first carrier is passed over as long as it is down, whatever becomes of its addresses. -/
theorem owner_first_up_carrier_past_down :
    ∃ (address : Ip) (down up wide : Interface),
      carriers [down, up] address = [0, 1] ∧
      ownerIndex? [down, up] address = some 1 ∧
      List.Forall₂ Reworked [down, up] [{ down with nets := [] }, wide] ∧
      ownerIndex? [{ down with nets := [] }, wide] address = ownerIndex? [down, up] address ∧
      owner? [up] address = owner? [down, up] address ∧
      owner? ([down, up] ++ [wide]) address = some up := by
  refine ⟨.v4 ⟨10, 0, 0, 5⟩,
    { name := "eth1", flags := 2, nets := [.host (.v4 ⟨10, 0, 0, 5⟩)] },
    { name := "eth0", flags := 1, nets := [⟨.v4 ⟨10, 0, 0, 5⟩, 24, by decide⟩] },
    { name := "eth0", flags := 1, nets := [⟨.v4 ⟨10, 0, 0, 5⟩, 8, by decide⟩] },
    rfl, rfl, .cons (.down rfl) (.cons (.lengths rfl) .nil), ?_, ?_, ?_⟩
  · exact (owner_first_up_carrier _ _).2.2.2.2.1 _
      (.cons (.down rfl) (.cons (.lengths rfl) .nil))
  · exact (owner_first_up_carrier _ _).2.2.2.2.2.1 _ rfl
  · exact (owner_first_up_carrier _ _).2.2.2.2.2.2.2.1 _ _ rfl

end Interface
end Egress
