import Egress.Terminal.Colour
import Egress.Log.Level

/-!
# Log events and their lines

An event is one line of the log: a symbol for its level, for the two least severe levels also the
part of the program that reports it, and a message. Symbol and source may be coloured. No message
can bring in control sequences of its own: control characters in it are written out.
-/

namespace Egress

structure Event where
  level : Level
  source : String
  message : String
  deriving DecidableEq, Repr

/-! ## Control characters -/

namespace Text

/-- The characters that a terminal would act on are spelt out in a message, and line ends are not
among them. -/
def escapeChar (c : Char) : List Char :=
  let n := c.toNat
  if n = 0x07 ∨ n = 0x08 ∨ n = 0x0C ∨ n = 0x1B ∨ n = 0x7F then
    ['\\', 'x'] ++ (Nat.toDigits 16 n).leftpad 2 '0'
  else if 0x80 ≤ n ∧ n ≤ 0x9F then
    ['\\', 'u', '\x7b'] ++ Nat.toDigits 16 n ++ ['\x7d']
  else [c]

def escape (cs : List Char) : List Char := cs.flatMap escapeChar

end Text

/-! ## Symbols -/

namespace Level

def symbol : Level → List Char
  | .trace => ['[', '?', ']']
  | .debug => ['[', '?', ']']
  | .info => ['[', '+', ']']
  | .warn => ['[', '*', ']']
  | .error => ['[', '-', ']']

/-- Blue for details, and bold green, yellow and red. -/
def style : Level → List Char
  | .trace => ['3', '4']
  | .debug => ['3', '4']
  | .info => ['1', ';', '3', '2']
  | .warn => ['1', ';', '3', '3']
  | .error => ['1', ';', '3', '1']

/-- The levels that are for following what the program does. -/
def isDetail (level : Level) : Bool := level ≤ .debug

end Level

/-! ## Lines -/

namespace Event

def line (color : Bool) (e : Event) : List Char :=
  Colour.paint color e.level.style e.level.symbol ++ [' '] ++
    (if e.level.isDetail then Colour.paint color Colour.dim (e.source.toList ++ [':']) ++ [' ']
      else []) ++
    Text.escape e.message.toList ++ ['\n']

/-- The events that are at least as severe as the threshold. -/
def filter (threshold : Level) (es : List Event) : List Event :=
  es.filter fun e => threshold ≤ e.level

/-- The log of the events that the threshold lets through, in their order. -/
def log (threshold : Level) (color : Bool) (es : List Event) : String :=
  String.ofList ((filter threshold es).flatMap (line color))

theorem toList_log_append (threshold : Level) (color : Bool) (es fs : List Event) :
    (log threshold color (es ++ fs)).toList =
      (log threshold color es).toList ++ (log threshold color fs).toList := by
  simp [log, filter]

end Event
end Egress
