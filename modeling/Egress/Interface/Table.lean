import Egress.Interface.Basic

/-!
# The interface table

The host lists its interfaces as entries, one for each address and one for each link, in any order.
The table has one interface for each name, in the order in which the names first appear.
-/

namespace Egress

/-- What one entry tells about its interface. -/
inductive Attachment
  | link (mac : Option Mac)
  | address (ip : Ip) (mask : Option Ip)
  deriving DecidableEq, Repr

namespace Attachment

/-- A link whose address is given as a text. A text that is no link address leaves the link without
one. -/
def ofLinkText (text : Option String) : Attachment :=
  .link (text.bind Mac.ofText?)

/-- An address whose mask is given as it is or by its length. A given mask wins over a length. -/
def ofAddress (ip : Ip) (mask : Option Ip) (length : Option Nat) : Attachment :=
  .address ip (mask.or (length.map (Ip.mask ip.family)))

end Attachment

structure InterfaceEntry where
  name : String
  flags : UInt32 := 0
  index : Option Nat := none
  attachment : Attachment := .link none
  deriving DecidableEq, Repr

namespace InterfaceEntry

/-- The address of an entry with the length of its mask; without a mask the length is zero. A mask
longer than the address has no place in the table, and neither has its address. -/
def net? (e : InterfaceEntry) : Option Net :=
  match e.attachment with
  | .link _ => none
  | .address ip mask => Net.ofLength? ip (mask.elim 0 Ip.maskLength)

/-- A mask that is given by its length has this length in the table, as far as the address has room
for it. -/
theorem net?_of_mask_length {e : InterfaceEntry} {ip : Ip} {length : Nat}
    (h : e.attachment = .ofAddress ip none (some length)) :
    e.net? = some ⟨ip, min length (Ip.width ip.family), Nat.min_le_right _ _⟩ := by
  have hlength : (Ip.mask ip.family length).maskLength = min length (Ip.width ip.family) :=
    Ip.maskLength_mask ip.family length
  simp only [net?, h, Attachment.ofAddress, Option.none_or, Option.map_some, Option.elim_some,
    hlength, Net.ofLength?]
  exact dif_pos (Nat.min_le_right _ _)

/-- An address whose mask has a gap is a network of every address. -/
theorem net?_of_mask_gap {e : InterfaceEntry} {ip mask : Ip} {before after : List Bool}
    (h : e.attachment = .address ip (some mask)) (hbits : mask.bits = before ++ false :: after)
    (hone : true ∈ after) : e.net? = some ⟨ip, 0, Nat.zero_le _⟩ := by
  simp only [net?, h, Option.elim_some, Ip.maskLength_of_gap hbits hone, Net.ofLength?]
  exact dif_pos (Nat.zero_le _)

def mac? (e : InterfaceEntry) : Option Mac :=
  match e.attachment with
  | .link mac => mac
  | .address _ _ => none

end InterfaceEntry

namespace Interface

/-- The names of the entries in the order of their first appearance. -/
def names (es : List InterfaceEntry) : List String :=
  (es.map (·.name)).eraseDups

/-- The interface that all entries of one name make up. The first entry may give its index, which
else is its position in the table. -/
def merge (position : Nat) (name : String) (es : List InterfaceEntry) : Interface where
  name := name
  index := (es.head?.bind (·.index)).getD position
  mac := (es.filterMap (·.mac?)).getLast?
  flags := es.foldl (fun flags e => flags ||| e.flags) 0
  nets := es.filterMap (·.net?)

def entriesOf (name : String) (es : List InterfaceEntry) : List InterfaceEntry :=
  es.filter fun e => e.name = name

def table (es : List InterfaceEntry) : List Interface :=
  (names es).mapIdx fun k name => merge (k + 1) name (entriesOf name es)

theorem map_name_table (es : List InterfaceEntry) : (table es).map (·.name) = names es := by
  apply List.ext_getElem <;> simp [table, merge]

end Interface
end Egress
