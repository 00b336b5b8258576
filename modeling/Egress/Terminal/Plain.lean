/-!
# Plain text

What is left of a text when the control sequences for a terminal are taken out of it. What stands in
front of the first of them is left as it is.
-/

namespace Egress
namespace Terminal

/-! ## Characters -/

def isControl (c : Char) : Bool := c.toNat < 0x20 || c.toNat = 0x7F

/-- The control characters that only move the text on. -/
def isSpacing (c : Char) : Bool := ['\t', '\n', '\x0c', '\r'].contains c

def isFinal (c : Char) : Bool := '@' ≤ c && c ≤ '~'

/-- The byte that ends a string for the terminal also ends it within the encoding of a character. -/
def endsString (c : Char) : Bool := (String.utf8EncodeChar c).contains 0x9C

/-! ## Places -/

/-- Where a character can stand. -/
inductive Place
  | text
  /-- Behind the escape character. -/
  | escape
  /-- Behind the escape character and further characters that do not end the sequence. -/
  | intermediate
  /-- In a control sequence, which a final character ends. -/
  | parameters
  /-- In a command to the system, which a bell ends. -/
  | command
  /-- Where the introduction of a string for a device starts. -/
  | device
  /-- Behind parameters of the introduction. -/
  | deviceParameters
  /-- Behind intermediate characters of the introduction. -/
  | deviceIntermediate
  /-- In a string for the terminal or a device. -/
  | string
  deriving DecidableEq, Repr

namespace Place

/-- Spacing also counts in the midst of most sequences. -/
def admitsSpacing : Place → Bool
  | .text => true
  | .escape => true
  | .intermediate => true
  | .parameters => true
  | .command => false
  | .device => false
  | .deviceParameters => false
  | .deviceIntermediate => false
  | .string => false

def shows (p : Place) (c : Char) : Bool :=
  if isControl c then isSpacing c && p.admitsSpacing else p = .text

/-- What the first character behind the escape character introduces. -/
def introduced (c : Char) : Place :=
  if '~' < c then .escape
  else if c ≤ '/' then .intermediate
  else if c = '[' then .parameters
  else if c = ']' then .command
  else if c = 'P' then .device
  else if c = 'X' ∨ c = '^' ∨ c = '_' then .string
  else .text

/-- The place behind a character that is not shown. The introduction of a string for a device has
one private marker or none, parameters, and intermediate characters, in this order. What breaks the
order is already part of the string. -/
def next (p : Place) (c : Char) : Place :=
  if c = '\x1b' then .escape
  else if c = '\x18' ∨ c = '\x1a' then .text
  else if isControl c then if p = .command ∧ c = '\x07' then .text else p
  else
    match p with
    | .text => .text
    | .escape => introduced c
    | .intermediate => if c ≤ '/' ∨ '~' < c then .intermediate else .text
    | .parameters => if isFinal c then .text else .parameters
    | .command => .command
    | .device =>
      if '~' < c then .device
      else if c ≤ '/' then .deviceIntermediate
      else if c ≤ '?' then .deviceParameters
      else .string
    | .deviceParameters =>
      if '~' < c then .deviceParameters
      else if c ≤ '/' then .deviceIntermediate
      else if c ≤ ';' then .deviceParameters
      else .string
    | .deviceIntermediate => if c ≤ '/' ∨ '~' < c then .deviceIntermediate else .string
    | .string => if endsString c then .text else .string

end Place

/-! ## Text without control sequences -/

/-- A run of shown characters is ordinary text, also one that starts with spacing in the midst of a
control sequence. In a stream the sequence stays open, and what ends the run stands in it. -/
def plainFrom (stream : Bool) (p : Place) (running : Bool) : List Char → List Char
  | [] => []
  | c :: cs =>
    if (if running then Place.text else p).shows c then
      c :: plainFrom stream (if stream ∧ c.toNat < 0x80 then p else .text) true cs
    else plainFrom stream (p.next c) false cs

/-- The text without its control sequences, read as a whole or as a stream. -/
def plain (stream : Bool) (cs : List Char) : List Char := plainFrom stream .text false cs

/-- In ordinary text it does not matter how it was entered. -/
theorem plainFrom_text (stream running : Bool) (cs : List Char) :
    plainFrom stream .text running cs = plain stream cs := by
  cases cs with
  | nil => rfl
  | cons c cs => simp [plain, plainFrom]

theorem plain_append {stream : Bool} {cs : List Char} (ds : List Char)
    (h : ∀ c ∈ cs, Place.text.shows c = true) :
    plain stream (cs ++ ds) = cs ++ plain stream ds := by
  induction cs with
  | nil => rfl
  | cons c cs ih =>
    have hc := h c List.mem_cons_self
    rw [List.cons_append, plain, plainFrom, ite_self, if_pos hc, ite_self, plainFrom_text,
      ih fun d hd => h d (List.mem_cons_of_mem c hd), List.cons_append]

end Terminal
end Egress
