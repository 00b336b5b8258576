import Egress.Endpoint
import Egress.Ip.Recognition

/-!
# The grammar of endpoints

An IPv4 address with a port behind it, or an IPv6 address in square brackets with a port behind
them, where a scope may follow the address. Main statement: the reader accepts exactly these texts,
each with the parts that it is put together from.
-/

namespace Egress
namespace Endpoint

open Text

/-! ## Forms -/

def Port (cs : List Char) (port : UInt16) : Prop := Numeral 10 cs port.toNat

def Scope (cs : List Char) (scope : UInt32) : Prop := Numeral 10 cs scope.toNat

/-- What stands between the brackets. A scope that is not written is zero. -/
inductive Scoped : List Char → Ipv6 × UInt32 → Prop
  | bare {cs : List Char} {ip : Ipv6} : Ipv6.Written cs ip → Scoped cs (ip, 0)
  | withScope {cs ss : List Char} {ip : Ipv6} {scope : UInt32} :
      Ipv6.Written cs ip → Scope ss scope → Scoped (cs ++ '%' :: ss) (ip, scope)

/-- No form has a flow label. -/
inductive Written : List Char → Endpoint → Prop
  | v4 {host ps : List Char} {ip : Ipv4} {port : UInt16} :
      Ipv4.Written host ip → Port ps port → Written (host ++ ':' :: ps) (.v4 ip port)
  | v6 {inside ps : List Char} {ip : Ipv6} {scope : UInt32} {port : UInt16} :
      Scoped inside (ip, scope) → Port ps port →
      Written ('[' :: (inside ++ ']' :: ':' :: ps)) (.v6 ip port scope 0)

/-! ## Numbers -/

theorem readPort?_eq_some_iff {cs : List Char} {port : UInt16} :
    readPort? cs = some port ↔ Port cs port := by
  simp only [readPort?, Option.bind_eq_some_iff, readDigits?_eq_some_iff (show 10 ≤ 16 by decide)]
  constructor
  · rintro ⟨n, hn, h⟩
    split at h
    · rename_i hlt
      cases h
      rwa [Port, UInt16.toNat_ofNat', Nat.mod_eq_of_lt hlt]
    · contradiction
  · intro h
    exact ⟨port.toNat, h, by simp [port.toNat_lt]⟩

theorem readScope?_eq_some_iff {cs : List Char} {scope : UInt32} :
    readScope? cs = some scope ↔ Scope cs scope := by
  simp only [readScope?, Option.bind_eq_some_iff, readDigits?_eq_some_iff (show 10 ≤ 16 by decide)]
  constructor
  · rintro ⟨n, hn, h⟩
    split at h
    · rename_i hlt
      cases h
      rwa [Scope, UInt32.toNat_ofNat', Nat.mod_eq_of_lt hlt]
    · contradiction
  · intro h
    exact ⟨scope.toNat, h, by simp [scope.toNat_lt]⟩

theorem Port.ne_nil {cs : List Char} {port : UInt16} (h : Port cs port) : cs ≠ [] :=
  Numeral.ne_nil h

theorem Port.not_mem {x : Char} {cs : List Char} {port : UInt16} (hx : digitValue? x = none)
    (h : Port cs port) : x ∉ cs :=
  Numeral.not_mem (by decide) hx h

theorem Scope.not_mem {x : Char} {cs : List Char} {scope : UInt32} (hx : digitValue? x = none)
    (h : Scope cs scope) : x ∉ cs :=
  Numeral.not_mem (by decide) hx h

/-! ## IPv4 endpoints -/

theorem readV4?_eq_some_iff {cs : List Char} {e : Endpoint} :
    readV4? cs = some e ↔
      ∃ host ps ip port, Ipv4.Written host ip ∧ Port ps port ∧ cs = host ++ ':' :: ps ∧
        e = .v4 ip port := by
  constructor
  · intro h
    have hsplit : [':'].intercalate (cs.splitOn ':') = cs := List.intercalate_splitOn ':'
    simp only [readV4?] at h
    split at h
    · rename_i host ps hparts
      rw [hparts] at hsplit
      simp only [Option.bind_eq_bind, Option.bind_eq_some_iff, Ipv4.read?_eq_some_iff,
        readPort?_eq_some_iff, Option.pure_def, Option.some.injEq] at h
      obtain ⟨ip, hip, port, hport, rfl⟩ := h
      exact ⟨host, ps, ip, port, hip, hport, by simp [← hsplit, List.intercalate_cons_cons], rfl⟩
    · contradiction
  · rintro ⟨host, ps, ip, port, hip, hport, rfl, rfl⟩
    have hhost : ':' ∉ host := hip.not_mem (by decide) (by decide)
    have hps : ':' ∉ ps := hport.not_mem (by decide)
    simp [readV4?, List.splitOn_append_cons_self_of_not_mem hhost, List.splitOn_eq_singleton hps,
      Ipv4.read?_eq_some_iff.2 hip, readPort?_eq_some_iff.2 hport]

/-- An IPv4 endpoint does not start with a bracket. -/
theorem readV4?_bracket (rest : List Char) : readV4? ('[' :: rest) = none := by
  rw [Option.eq_none_iff_forall_ne_some]
  intro e h
  obtain ⟨host, ps, ip, port, hip, -, heq, -⟩ := readV4?_eq_some_iff.1 h
  have hbracket : '[' ∉ host := hip.not_mem (by decide) (by decide)
  cases host with
  | nil => simpa using hip.dot_mem
  | cons c host =>
    rw [List.cons_append, List.cons.injEq] at heq
    exact hbracket (heq.1 ▸ List.mem_cons_self)

/-! ## IPv6 endpoints -/

theorem readScoped?_eq_some_iff {cs : List Char} {inner : Ipv6 × UInt32} :
    readScoped? cs = some inner ↔ Scoped cs inner := by
  constructor
  · intro h
    have hsplit : ['%'].intercalate (cs.splitOn '%') = cs := List.intercalate_splitOn '%'
    simp only [readScoped?] at h
    split at h
    · rename_i hpieces
      rw [hpieces] at hsplit
      simp only [Option.bind_eq_bind, Option.bind_eq_some_iff, Ipv6.read?_eq_some_iff,
        Option.pure_def, Option.some.injEq] at h
      obtain ⟨_, hip, rfl⟩ := h
      simpa [← hsplit] using Scoped.bare hip
    · rename_i hpieces
      rw [hpieces] at hsplit
      simp only [Option.bind_eq_bind, Option.bind_eq_some_iff, Ipv6.read?_eq_some_iff,
        readScope?_eq_some_iff, Option.pure_def, Option.some.injEq] at h
      obtain ⟨_, hip, _, hscope, rfl⟩ := h
      simpa [← hsplit, List.intercalate_cons_cons] using Scoped.withScope hip hscope
    · contradiction
  · rintro (hip | ⟨hip, hscope⟩)
    · have hsign : '%' ∉ cs := hip.not_mem (by decide) (by decide) (by decide)
      simp [readScoped?, List.splitOn_eq_singleton hsign, Ipv6.read?_eq_some_iff.2 hip]
    · rename_i host ss ip scope
      have hhost : '%' ∉ host := hip.not_mem (by decide) (by decide) (by decide)
      have hss : '%' ∉ ss := hscope.not_mem (by decide)
      simp [readScoped?, List.splitOn_append_cons_self_of_not_mem hhost,
        List.splitOn_eq_singleton hss, Ipv6.read?_eq_some_iff.2 hip,
        readScope?_eq_some_iff.2 hscope]

/-- Colons, dots and the sign of a scope are the only characters besides digits. -/
theorem Scoped.not_mem {x : Char} {cs : List Char} {inner : Ipv6 × UInt32}
    (hx : digitValue? x = none) (hdot : x ≠ '.') (hcolon : x ≠ ':') (hsign : x ≠ '%')
    (h : Scoped cs inner) : x ∉ cs := by
  rcases h with hip | ⟨hip, hscope⟩
  · exact hip.not_mem hx hdot hcolon
  · have hhost := hip.not_mem hx hdot hcolon
    have hss := hscope.not_mem hx
    simp [hhost, hss, hsign]

theorem readV6?_eq_some_iff {cs : List Char} {e : Endpoint} :
    readV6? cs = some e ↔
      ∃ inside ps inner port, Scoped inside inner ∧ Port ps port ∧
        cs = '[' :: (inside ++ ']' :: ':' :: ps) ∧ e = .v6 inner.1 port inner.2 0 := by
  constructor
  · intro h
    simp only [readV6?] at h
    split at h
    · rename_i rest
      have hsplit : [']'].intercalate (rest.splitOn ']') = rest := List.intercalate_splitOn ']'
      split at h
      · rename_i inside ps hparts
        rw [hparts] at hsplit
        simp only [Option.bind_eq_bind, Option.bind_eq_some_iff, readScoped?_eq_some_iff,
          readPort?_eq_some_iff, Option.pure_def, Option.some.injEq] at h
        obtain ⟨inner, hinner, port, hport, rfl⟩ := h
        exact ⟨inside, ps, inner, port, hinner, hport,
          by simp [← hsplit, List.intercalate_cons_cons], rfl⟩
      · contradiction
    · contradiction
  · rintro ⟨inside, ps, inner, port, hinner, hport, rfl, rfl⟩
    have hinside : ']' ∉ inside :=
      hinner.not_mem (by decide) (by decide) (by decide) (by decide)
    have hps : ']' ∉ ':' :: ps := by simpa using hport.not_mem (by decide)
    simp [readV6?, List.splitOn_append_cons_self_of_not_mem hinside,
      List.splitOn_eq_singleton hps, readScoped?_eq_some_iff.2 hinner,
      readPort?_eq_some_iff.2 hport]

/-! ## Either family -/

theorem read?_eq_some_iff {cs : List Char} {e : Endpoint} :
    read? cs = some e ↔ Written cs e := by
  rw [read?]
  constructor
  · intro h
    rcases Option.or_eq_some_iff.1 h with h | ⟨-, h⟩
    · obtain ⟨_, _, _, _, hip, hport, rfl, rfl⟩ := readV4?_eq_some_iff.1 h
      exact .v4 hip hport
    · obtain ⟨_, _, ⟨_, _⟩, _, hinner, hport, rfl, rfl⟩ := readV6?_eq_some_iff.1 h
      exact .v6 hinner hport
  · rintro (⟨hip, hport⟩ | ⟨hinner, hport⟩)
    · simp [readV4?_eq_some_iff.2 ⟨_, _, _, _, hip, hport, rfl, rfl⟩]
    · rw [readV4?_bracket, Option.none_or]
      exact readV6?_eq_some_iff.2 ⟨_, _, _, _, hinner, hport, rfl, rfl⟩

end Endpoint
end Egress
