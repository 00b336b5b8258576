import Egress.Destination
import Egress.Endpoint.Grammar

/-!
# The grammar of destinations

A destination is written as an endpoint or as a bare address, and no text is both. Main statements:
what is read from a text of either form, and from a text of neither.
-/

namespace Egress
namespace Destination

/-! ## Bare addresses -/

/-- An address alone, with or without one pair of square brackets. -/
inductive Bare : List Char → Ip → Prop
  | plain {cs : List Char} {ip : Ip} : Ip.Written cs ip → Bare cs ip
  | bracketed {cs : List Char} {ip : Ip} : Ip.Written cs ip → Bare ('[' :: (cs ++ [']'])) ip

theorem unbracket_bracketed (cs : List Char) : unbracket ('[' :: (cs ++ [']'])) = cs := by
  simp [unbracket]

theorem unbracket_eq_self {cs : List Char} (h : '[' ∉ cs) : unbracket cs = cs := by
  cases cs with
  | nil => rfl
  | cons c cs =>
    have hc : c ≠ '[' := fun hc => h (hc ▸ List.mem_cons_self)
    simp [unbracket, hc]

theorem eq_or_eq_bracketed (cs : List Char) :
    unbracket cs = cs ∨ cs = '[' :: (unbracket cs ++ [']']) := by
  simp only [unbracket]
  split
  · split
    · rename_i hlast
      obtain ⟨inner, rfl⟩ := List.getLast?_eq_some_iff.1 hlast
      simp
    · exact .inl rfl
  · exact .inl rfl

theorem read?_unbracket_eq_some_iff {cs : List Char} {ip : Ip} :
    Ip.read? (unbracket cs) = some ip ↔ Bare cs ip := by
  rw [Ip.read?_eq_some_iff]
  constructor
  · intro h
    rcases eq_or_eq_bracketed cs with heq | heq
    · exact .plain (heq ▸ h)
    · rw [heq]
      exact .bracketed h
  · rintro (h | h)
    · rwa [unbracket_eq_self (h.not_mem (by decide) (by decide) (by decide))]
    · rwa [unbracket_bracketed]

/-! ## Endpoints and bare addresses -/

/-- Dotted numbers can only end an IPv6 address. -/
theorem read?_v4Endpoint {host ps : List Char} {ip : Ipv4} {port : UInt16}
    (hip : Ipv4.Written host ip) (hport : Endpoint.Port ps port) :
    Ipv6.read? (host ++ ':' :: ps) = none := by
  have hhost : ':' ∉ host := hip.not_mem (by decide) (by decide)
  have hps : ':' ∉ ps := hport.not_mem (by decide)
  have hhead : ps.head? ≠ some ':' := fun h => hps (List.mem_of_head? h)
  have hend : Ipv6.splitAtGap? ps = none := by
    have happend := Ipv6.splitAtGap?_append hps []
    simpa [Ipv6.splitAtGap?] using happend
  have hgroup : Ipv6.readGroup? host = none := Option.eq_none_iff_forall_ne_some.2 fun g hg =>
    (Ipv6.readGroup?_eq_some_iff.1 hg).not_mem (by decide) hip.dot_mem
  simp [Ipv6.read?, Ipv6.splitAtGap?_append hhost, Ipv6.splitAtGap?_cons fun _ => hhead, hend,
    Ipv6.readGroups?, List.splitOn_append_cons_self_of_not_mem hhost,
    List.splitOn_eq_singleton hps, Ipv6.readPieces?, hgroup]

theorem unbracket_of_written {cs : List Char} {e : Endpoint} (h : Endpoint.Written cs e) :
    unbracket cs = cs := by
  cases h with
  | v4 hip hport =>
    have hhost := hip.not_mem (x := '[') (by decide) (by decide)
    have hps := hport.not_mem (x := '[') (by decide)
    exact unbracket_eq_self (by simp [hhost, hps])
  | @v6 inside ps ip scope port _ hport =>
    -- The text ends with a digit of the port.
    have hlast : (inside ++ ']' :: ':' :: ps).getLast? = some (ps.getLast hport.ne_nil) := by
      simp [List.getLast?_append, List.getLast?_cons, List.getLast?_eq_some_getLast hport.ne_nil]
    have hdigit : ps.getLast hport.ne_nil ≠ ']' := fun h =>
      hport.not_mem (x := ']') (by decide) (h ▸ List.getLast_mem hport.ne_nil)
    simp [unbracket, hlast, hdigit]

/-- No text is both an endpoint and a bare address. -/
theorem not_bare_of_written {cs : List Char} {e : Endpoint} {ip : Ip}
    (h : Endpoint.Written cs e) : ¬Bare cs ip := by
  intro hbare
  have hread := read?_unbracket_eq_some_iff.2 hbare
  rw [unbracket_of_written h] at hread
  have hwritten := Ip.read?_eq_some_iff.1 hread
  rcases h with ⟨hip, hport⟩ | ⟨_, _⟩
  · rcases hwritten with hsmall | hlarge
    · exact hsmall.not_mem (x := ':') (by decide) (by decide) (by simp)
    · have hnone := read?_v4Endpoint hip hport
      rw [Ipv6.read?_eq_some_iff.2 hlarge] at hnone
      contradiction
  · exact hwritten.not_mem (x := '[') (by decide) (by decide) (by decide) List.mem_cons_self

/-! ## Reading -/

theorem readTrimmed_of_written {cs : List Char} {e : Endpoint} (h : Endpoint.Written cs e) :
    readTrimmed cs = ofEndpoint e := by
  simp [readTrimmed, Endpoint.read?_eq_some_iff.2 h]

theorem readTrimmed_of_bare {cs : List Char} {ip : Ip} (h : Bare cs ip) :
    readTrimmed cs = ofEndpoint (.ofIp standardPort ip) := by
  have hnone : Endpoint.read? cs = none := Option.eq_none_iff_forall_ne_some.2 fun e he =>
    not_bare_of_written (Endpoint.read?_eq_some_iff.1 he) h
  simp [readTrimmed, hnone, read?_unbracket_eq_some_iff.2 h]

theorem readTrimmed_of_not {cs : List Char} (hendpoint : ∀ e, ¬Endpoint.Written cs e)
    (hbare : ∀ ip, ¬Bare cs ip) : readTrimmed cs = .error (.malformed (String.ofList cs)) := by
  have hnone : Endpoint.read? cs = none := Option.eq_none_iff_forall_ne_some.2 fun e he =>
    hendpoint e (Endpoint.read?_eq_some_iff.1 he)
  have hip : Ip.read? (unbracket cs) = none := Option.eq_none_iff_forall_ne_some.2 fun ip h =>
    hbare ip (read?_unbracket_eq_some_iff.1 h)
  simp [readTrimmed, hnone, hip]

end Destination
end Egress
