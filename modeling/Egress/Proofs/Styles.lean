import Egress.Proofs.Levels
import Egress.Text.Numeral

/-!
# Styles — what colour adds to the log

A line in colour has control sequences around its symbol and its source, and no message can bring
one of its own. Main statement: the log in colour, less its control sequences, is the log without
colour, where no source has an escape character in it. Both are made up line by line, so they can be
split at any event, and events that the threshold does not let through may be dropped beforehand.
-/

namespace Egress

/-! ## Texts without styles -/

namespace Colour

/-- The characters between the start of a style and its end. -/
def isParameter (c : Char) : Bool := c.isDigit || c = ';'

/-- The text without the sequences that select styles. What only starts like one is kept. -/
def unstyled : List Char → List Char
  | [] => []
  | '\x1b' :: '[' :: cs =>
    match _h : cs.dropWhile isParameter with
    | 'm' :: rest => unstyled rest
    | _ => '\x1b' :: '[' :: unstyled cs
  | c :: cs => c :: unstyled cs
termination_by cs => cs.length
decreasing_by
  · have hle := (List.dropWhile_sublist (p := isParameter) (l := cs)).length_le
    rw [_h, List.length_cons] at hle
    simp only [List.length_cons]
    omega
  · simp only [List.length_cons]
    omega
  · exact Nat.lt_succ_self _

theorem unstyled_select {style : List Char} (h : ∀ c ∈ style, isParameter c = true)
    (cs : List Char) : unstyled (select style ++ cs) = unstyled cs := by
  have hparameters : (style ++ 'm' :: cs).dropWhile isParameter = 'm' :: cs := by
    rw [List.dropWhile_append_of_pos h]
    rfl
  have hselect : select style ++ cs = '\x1b' :: '[' :: (style ++ 'm' :: cs) := by
    simp [select]
  rw [hselect, unstyled]
  split
  case h_1 rest heq =>
    rw [hparameters] at heq
    cases heq
    rfl
  case h_2 hother => exact absurd hparameters (hother cs)

theorem unstyled_append {cs : List Char} (h : '\x1b' ∉ cs) (ds : List Char) :
    unstyled (cs ++ ds) = cs ++ unstyled ds := by
  induction cs with
  | nil => rfl
  | cons c cs ih =>
    have hne : c ≠ '\x1b' := fun hc => h (by simp [hc])
    have hrest : '\x1b' ∉ cs := fun hc => h (by simp [hc])
    rw [List.cons_append, unstyled.eq_3 _ _ (fun _ hc => absurd hc hne), ih hrest]
    rfl

theorem unstyled_paint {style cs : List Char} (hstyle : ∀ c ∈ style, isParameter c = true)
    (h : '\x1b' ∉ cs) (ds : List Char) :
    unstyled (paint true style cs ++ ds) = cs ++ unstyled ds := by
  have hzero : ∀ c ∈ ['0'], isParameter c = true := by simp [isParameter]
  rw [paint, if_pos rfl, resume_eq_self h, List.append_assoc, List.append_assoc,
    unstyled_select hstyle, unstyled_append h, reset, unstyled_select hzero]

end Colour

/-! ## Messages -/

namespace Text

/-- A character that escapes are not made of comes from the message, which shows it as it is. -/
theorem mem_of_mem_escape {x : Char} {cs : List Char} (hdigit : digitValue? x = none)
    (hframe : x ∉ ['\\', 'x', '0', 'u', '\x7b', '\x7d']) (h : x ∈ escape cs) :
    x ∈ cs ∧ escapeChar x = [x] := by
  obtain ⟨c, hc, hx⟩ := List.mem_flatMap.1 h
  have hdigits : x ∉ Nat.toDigits 16 c.toNat :=
    (numeral_toDigits (by decide) (by decide) c.toNat).not_mem (by decide) hdigit
  simp only [List.mem_cons, not_or] at hframe
  simp only [escapeChar] at hx
  split at hx
  · -- The digits may have zeros in front of them.
    simp [List.leftpad, hdigits, hframe] at hx
  · split at hx
    · simp [hdigits, hframe] at hx
    · rename_i hshort hlong
      obtain rfl := List.mem_singleton.1 hx
      exact ⟨hc, by simp only [escapeChar, if_neg hshort, if_neg hlong]⟩

/-- A character that is escaped, and that escapes are not made of, is in no message. -/
theorem not_mem_escape {x : Char} (hescaped : escapeChar x ≠ [x]) (hdigit : digitValue? x = none)
    (hframe : x ∉ ['\\', 'x', '0', 'u', '\x7b', '\x7d']) (cs : List Char) : x ∉ escape cs :=
  fun h => hescaped (mem_of_mem_escape hdigit hframe h).2

theorem escape_not_mem_escape (cs : List Char) : '\x1b' ∉ escape cs :=
  not_mem_escape (by decide) (by decide) (by decide) cs

end Text

/-! ## Lines -/

namespace Level

theorem isParameter_of_mem_style {level : Level} :
    ∀ c ∈ level.style, Colour.isParameter c = true := by
  cases level <;> simp [style, Colour.isParameter]

theorem escape_not_mem_symbol (level : Level) : '\x1b' ∉ level.symbol := by
  cases level <;> decide

end Level

namespace Event

/-- Of a line in colour, only the styles are no part of it without colour. -/
theorem unstyled_line {e : Event} (h : '\x1b' ∉ e.source.toList) (ds : List Char) :
    Colour.unstyled (line true e ++ ds) = line false e ++ Colour.unstyled ds := by
  have hdim : ∀ c ∈ Colour.dim, Colour.isParameter c = true := by
    simp [Colour.dim, Colour.isParameter]
  have hsource : '\x1b' ∉ e.source.toList ++ [':'] := by simpa using h
  have hspace : '\x1b' ∉ [' '] := by decide
  have hend : '\x1b' ∉ ['\n'] := by decide
  have hmessage := Text.escape_not_mem_escape e.message.toList
  simp only [line, List.append_assoc, Colour.paint_false,
    Colour.unstyled_paint Level.isParameter_of_mem_style e.level.escape_not_mem_symbol,
    Colour.unstyled_append hspace]
  cases e.level.isDetail with
  | false =>
    simp only [Bool.false_eq_true, if_false, List.nil_append, Colour.unstyled_append hmessage,
      Colour.unstyled_append hend]
  | true =>
    simp only [if_true, List.append_assoc, Colour.unstyled_paint hdim hsource,
      Colour.unstyled_append hspace, Colour.unstyled_append hmessage, Colour.unstyled_append hend]

theorem unstyled_lines {es : List Event} (h : ∀ e ∈ es, '\x1b' ∉ e.source.toList) :
    Colour.unstyled (es.flatMap (line true)) = es.flatMap (line false) := by
  induction es with
  | nil => simp [Colour.unstyled]
  | cons e es ih =>
    rw [List.flatMap_cons, List.flatMap_cons, unstyled_line (h e List.mem_cons_self),
      ih fun e' he' => h e' (List.mem_cons_of_mem e he')]

theorem filter_filter {lower threshold : Level} (h : lower ≤ threshold) (es : List Event) :
    filter threshold (filter lower es) = filter threshold es := by
  rw [filter, filter, List.filter_filter, filter]
  refine List.filter_congr fun e _ => ?_
  by_cases hlevel : threshold ≤ e.level
  · simp [hlevel, Level.le_trans h hlevel]
  · simp [hlevel]

/-- In colour, the log says what it says without, once its styles are taken out. With colour and
without, it has one line for each event that is severe enough and nothing else, so the log of events
in two parts is that of the one and then that of the other, and it does not matter whether events
that would be left out anyway were there. -/
theorem colour_adds_styles_alone (threshold : Level) {es : List Event}
    (h : ∀ e ∈ es, '\x1b' ∉ e.source.toList) :
    Colour.unstyled (log threshold true es).toList = (log threshold false es).toList ∧
    ∀ color,
      (log threshold color es).toList =
        (es.filter fun e => threshold ≤ e.level).flatMap (line color) ∧
      (∀ fs, log threshold color (es ++ fs) = log threshold color es ++ log threshold color fs) ∧
      ∀ lower ≤ threshold, log threshold color (filter lower es) = log threshold color es := by
  refine ⟨?_, fun color => ⟨toList_log threshold color es, fun fs => ?_, fun lower hlower => ?_⟩⟩
  · rw [toList_log, toList_log]
    exact unstyled_lines fun e he => h e (List.mem_filter.1 he).1
  · rw [← String.toList_inj, toList_log_append, String.toList_append]
  · rw [log, filter_filter hlower, log]

/-- A source can look like the rest of a style, and a message can bring one, but not its escape
character. -/
theorem colour_adds_styles_alone_to_messages :
    let es : List Event := [⟨.debug, "[2m", "\x1b[31m[0m"⟩]
    (∀ e ∈ es, '\x1b' ∉ e.source.toList) ∧
      (log .debug true es).toList =
        "\x1b[34m[?]\x1b[0m \x1b[2m[2m:\x1b[0m \\x1b[31m[0m\n".toList ∧
      Colour.unstyled (log .debug true es).toList = "[?] [2m: \\x1b[31m[0m\n".toList := by
  intro es
  have hsources : ∀ e ∈ es, '\x1b' ∉ e.source.toList := by
    simp [es]
  exact ⟨hsources, rfl, (colour_adds_styles_alone .debug hsources).1⟩

end Event
end Egress
