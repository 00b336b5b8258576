import Egress.Proofs.Styles

/-!
# Lines — what can stand in a line of the log

A line has a symbol, for details the source of its event, and the message, in which commands for a
terminal are written out. Main statements: if all sources are made of visible characters, nothing in
the log lets a terminal do anything but change its style; and if no message has a line end in it,
the log has one line for each event that is severe enough, and each line starts with a symbol.
-/

namespace Egress

/-! ## Characters -/

namespace Text

/-- A terminal does something at this character instead of showing it. Tabs and line ends are not
among these. -/
def IsCommand (c : Char) : Prop :=
  c.toNat ∈ [0x07, 0x08, 0x0C, 0x1B, 0x7F] ∨ 0x80 ≤ c.toNat ∧ c.toNat ≤ 0x9F

/-- Letters, digits, signs and spaces of ASCII. -/
def isVisible (c : Char) : Bool := 0x20 ≤ c.toNat && c.toNat ≤ 0x7E

theorem IsCommand.isVisible_eq_false {c : Char} (h : IsCommand c) : isVisible c = false := by
  simp only [IsCommand, List.mem_cons, List.not_mem_nil, or_false] at h
  simp only [isVisible, Bool.and_eq_false_iff, decide_eq_false_iff_not]
  omega

theorem not_mem_of_all_isVisible {x : Char} {cs : List Char} (h : cs.all isVisible = true)
    (hx : isVisible x = false) : x ∉ cs := by
  intro hmem
  rw [List.all_eq_true.1 h x hmem] at hx
  contradiction

theorem IsCommand.escapeChar_ne {c : Char} (h : IsCommand c) : escapeChar c ≠ [c] := by
  -- The escape starts with a sign that is no command.
  have hhead : (escapeChar c).head? = some '\\' := by
    simp only [IsCommand, List.mem_cons, List.not_mem_nil, or_false] at h
    simp only [escapeChar]
    split
    · rfl
    · split
      · rfl
      · omega
  intro hself
  rw [hself, List.head?_cons, Option.some.injEq] at hhead
  rw [hhead] at h
  exact absurd h.isVisible_eq_false (by decide)

theorem IsCommand.not_mem_escape {c : Char} (h : IsCommand c) (cs : List Char) : c ∉ escape cs := by
  have hdigit : digitValue? c = none := by
    -- Digits are shown, and commands are not.
    refine Option.eq_none_iff_forall_ne_some.2 fun d hd => ?_
    have hvalue := toNat_of_digitValue? hd
    have hvisible := h.isVisible_eq_false
    simp only [isVisible, Bool.and_eq_false_iff, decide_eq_false_iff_not] at hvisible
    omega
  have hframe : c ∉ ['\\', 'x', '0', 'u', '\x7b', '\x7d'] :=
    not_mem_of_all_isVisible (by decide) h.isVisible_eq_false
  exact Text.not_mem_escape h.escapeChar_ne hdigit hframe cs

theorem newline_mem_of_mem_escape {cs : List Char} (h : '\n' ∈ escape cs) : '\n' ∈ cs :=
  (mem_of_mem_escape (by decide) (by decide) h).1

theorem not_mem_append {x : Char} {s t : String} (hs : x ∉ s.toList) (ht : x ∉ t.toList) :
    x ∉ (s ++ t).toList := by
  rw [String.toList_append, List.mem_append, not_or]
  exact ⟨hs, ht⟩

end Text

/-! ## Styles -/

namespace Colour

open Text

/-- Every escape character of the text begins one of the sequences. -/
def EscapesBegin (sequences : List (List Char)) (cs : List Char) : Prop :=
  ∀ rest, '\x1b' :: rest <:+ cs → ∃ s ∈ sequences, s <+: '\x1b' :: rest

section EscapesBegin

variable {sequences : List (List Char)} {cs ds : List Char}

theorem EscapesBegin.of_not_mem (h : '\x1b' ∉ cs) : EscapesBegin sequences cs :=
  fun _ hsuffix => absurd (hsuffix.subset List.mem_cons_self) h

theorem EscapesBegin.append (hcs : EscapesBegin sequences cs) (hds : EscapesBegin sequences ds) :
    EscapesBegin sequences (cs ++ ds) := by
  rintro rest ⟨before, heq⟩
  rcases List.append_eq_append_iff.1 heq with ⟨cut, rfl, hrest⟩ | ⟨cut, -, rfl⟩
  · rcases List.cons_eq_append_iff.1 hrest with ⟨-, rfl⟩ | ⟨cut', rfl, rfl⟩
    · exact hds rest List.suffix_rfl
    · -- It stands in the first part, and its sequence does not end behind it.
      obtain ⟨s, hs, hprefix⟩ := hcs cut' (List.suffix_append before _)
      exact ⟨s, hs, hprefix.trans (List.prefix_append ('\x1b' :: cut') ds)⟩
  · exact hds rest (List.suffix_append cut _)

theorem EscapesBegin.flatMap {α : Type} {f : α → List Char} {xs : List α}
    (h : ∀ x ∈ xs, EscapesBegin sequences (f x)) : EscapesBegin sequences (xs.flatMap f) := by
  induction xs with
  | nil => exact .of_not_mem List.not_mem_nil
  | cons x xs ih =>
    exact (h x List.mem_cons_self).append (ih fun y hy => h y (List.mem_cons_of_mem x hy))

theorem escapesBegin_select {style : List Char} (hmem : select style ∈ sequences)
    (hstyle : style.all isVisible = true) : EscapesBegin sequences (select style) := by
  intro rest hsuffix
  refine ⟨select style, hmem, ?_⟩
  rcases List.suffix_cons_iff.1 hsuffix with heq | hlater
  · rw [heq]
    exact List.prefix_rfl
  · -- There is no escape character behind the first one.
    have hnone := not_mem_of_all_isVisible hstyle (x := '\x1b') (by decide)
    exact absurd (hlater.subset List.mem_cons_self) (by simp [hnone])

theorem escapesBegin_paint {style : List Char} (hmem : select style ∈ sequences)
    (hreset : reset ∈ sequences) (hstyle : style.all isVisible = true)
    (hcs : cs.all isVisible = true) : EscapesBegin sequences (paint true style cs) := by
  have hnone : '\x1b' ∉ cs := not_mem_of_all_isVisible hcs (by decide)
  rw [paint, if_pos rfl, resume_eq_self hnone]
  exact ((escapesBegin_select hmem hstyle).append (.of_not_mem hnone)).append
    (escapesBegin_select hreset (by decide))

end EscapesBegin

theorem mem_paint {color : Bool} {style cs : List Char} {x : Char}
    (hstyle : style.all isVisible = true) (hcs : cs.all isVisible = true)
    (h : x ∈ paint color style cs) : isVisible x = true ∨ color = true ∧ x = '\x1b' := by
  have hselect : ∀ style : List Char, style.all isVisible = true → x ∈ select style →
      isVisible x = true ∨ x = '\x1b' := by
    intro style hstyle hx
    simp only [select, List.cons_append, List.mem_cons, List.mem_append, List.not_mem_nil,
      or_false] at hx
    rcases hx with rfl | rfl | hx | rfl
    · exact .inr rfl
    · exact .inl (by decide)
    · exact .inl (List.all_eq_true.1 hstyle x hx)
    · exact .inl (by decide)
  cases color with
  | false => exact .inl (List.all_eq_true.1 hcs x h)
  | true =>
    rw [paint, if_pos rfl, resume_eq_self (not_mem_of_all_isVisible hcs (by decide)),
      List.mem_append, List.mem_append] at h
    rcases h with (h | h) | h
    · simpa using hselect style hstyle h
    · exact .inl (List.all_eq_true.1 hcs x h)
    · simpa using hselect ['0'] (by decide) h

end Colour

/-! ## Lines -/

namespace Event

/-- The sequences that select the styles of the log, and the one that ends them. -/
def sequences : List (List Char) :=
  ["\x1b[0m", "\x1b[2m", "\x1b[34m", "\x1b[1;32m", "\x1b[1;33m", "\x1b[1;31m"].map String.toList

/-- What a line can start with. -/
def symbols : List (List Char) := ["[?] ", "[+] ", "[*] ", "[-] "].map String.toList

end Event

namespace Level

open Text

theorem all_isVisible_symbol (level : Level) : level.symbol.all isVisible = true := by
  cases level <;> decide

theorem all_isVisible_style (level : Level) : level.style.all isVisible = true := by
  cases level <;> decide

theorem select_style_mem_sequences (level : Level) :
    Colour.select level.style ∈ Event.sequences := by
  cases level <;> decide

theorem symbol_mem_symbols (level : Level) : level.symbol ++ [' '] ∈ Event.symbols := by
  cases level <;> decide

end Level

namespace Event

open Text

/-- No character of the log lets a terminal do anything, but for styles in colour. -/
structure Harmless (threshold : Level) (es : List Event) : Prop where
  plain : ∀ c, IsCommand c → c ∉ (log threshold false es).toList
  coloured : Colour.EscapesBegin sequences (log threshold true es).toList

/-- The log has one line for each event that is severe enough, and without colour a line starts with
a symbol. Behind the last line end is nothing. -/
structure Lined (threshold : Level) (es : List Event) : Prop where
  count : ∀ color, (log threshold color es).toList.count '\n' =
    (es.filter fun e => threshold ≤ e.level).length
  symbols : ∃ lines, (log threshold false es).toList.splitOn '\n' = lines ++ [[]] ∧
    ∀ l ∈ lines, ∃ symbol ∈ symbols, symbol <+: l

/-- A line without its end. -/
def body (color : Bool) (e : Event) : List Char := (line color e).dropLast

theorem line_eq_body (color : Bool) (e : Event) : line color e = body color e ++ ['\n'] := by
  rw [body, line, List.dropLast_concat]

theorem body_eq (color : Bool) (e : Event) : body color e =
    Colour.paint color e.level.style e.level.symbol ++ [' '] ++
      (if e.level.isDetail then Colour.paint color Colour.dim (e.source.toList ++ [':']) ++ [' ']
        else []) ++ escape e.message.toList := by
  rw [body, line, List.dropLast_concat]

theorem symbol_prefix_body (e : Event) : e.level.symbol ++ [' '] <+: body false e := by
  rw [body_eq, Colour.paint_false, List.append_assoc _ _ (escape _)]
  exact List.prefix_append _ _

variable {e : Event}

theorem all_isVisible_named (hsource : e.source.toList.all isVisible = true) :
    (e.source.toList ++ [':']).all isVisible = true := by
  rw [List.all_append, hsource]
  rfl

/-- What a line can have in it: characters that are shown, escape characters of styles, and what
comes of the message. -/
theorem mem_body {color : Bool} {x : Char} (hsource : e.source.toList.all isVisible = true)
    (h : x ∈ body color e) : isVisible x = true ∨ (color = true ∧ x = '\x1b') ∨
      x ∈ escape e.message.toList := by
  rw [body_eq, List.mem_append, List.mem_append, List.mem_append] at h
  -- The parts of a line: symbol, space, source where there is one, and message.
  rcases h with ((h | h) | h) | h
  · rcases Colour.mem_paint e.level.all_isVisible_style e.level.all_isVisible_symbol h with h | h
    · exact .inl h
    · exact .inr (.inl h)
  · rw [List.mem_singleton.1 h]
    exact .inl (by decide)
  · split at h
    · rcases List.mem_append.1 h with h | h
      · rcases Colour.mem_paint (by decide) (all_isVisible_named hsource) h with h | h
        · exact .inl h
        · exact .inr (.inl h)
      · rw [List.mem_singleton.1 h]
        exact .inl (by decide)
    · contradiction
  · exact .inr (.inr h)

theorem escapesBegin_line (hsource : e.source.toList.all isVisible = true) :
    Colour.EscapesBegin sequences (line true e) := by
  have hreset : Colour.reset ∈ sequences := by decide
  have hsymbol := Colour.escapesBegin_paint e.level.select_style_mem_sequences hreset
    e.level.all_isVisible_style e.level.all_isVisible_symbol
  have hdim : Colour.select Colour.dim ∈ sequences := by decide
  have hname := Colour.escapesBegin_paint hdim hreset (by decide) (all_isVisible_named hsource)
  have hspace : Colour.EscapesBegin sequences [' '] := .of_not_mem (by decide)
  have hend : Colour.EscapesBegin sequences ['\n'] := .of_not_mem (by decide)
  have hmessage : Colour.EscapesBegin sequences (escape e.message.toList) :=
    .of_not_mem (escape_not_mem_escape _)
  rw [line]
  refine (((hsymbol.append hspace).append ?_).append hmessage).append hend
  split
  · exact hname.append hspace
  · exact .of_not_mem List.not_mem_nil

theorem not_mem_line {c : Char} (hsource : e.source.toList.all isVisible = true)
    (hc : IsCommand c) : c ∉ line false e := by
  intro h
  rw [line_eq_body, List.mem_append, List.mem_singleton] at h
  rcases h with h | rfl
  · rcases mem_body hsource h with h | ⟨h, -⟩ | h
    · rw [hc.isVisible_eq_false] at h
      contradiction
    · contradiction
    · exact hc.not_mem_escape _ h
  · exact absurd hc (by simp [IsCommand])

theorem newline_not_mem_body (hsource : e.source.toList.all isVisible = true)
    (hmessage : '\n' ∉ e.message.toList) (color : Bool) : '\n' ∉ body color e := by
  intro h
  rcases mem_body hsource h with h | ⟨-, h⟩ | h
  · exact absurd h (by decide)
  · exact absurd h (by decide)
  · exact hmessage (newline_mem_of_mem_escape h)

variable {es : List Event}

theorem harmless_of_sources (hsources : ∀ e ∈ es, e.source.toList.all isVisible = true)
    (threshold : Level) : Harmless threshold es := by
  constructor
  case plain =>
    intro c hc hmem
    rw [toList_log] at hmem
    obtain ⟨e, he, hmem⟩ := List.mem_flatMap.1 hmem
    exact not_mem_line (hsources e (List.mem_filter.1 he).1) hc hmem
  case coloured =>
    rw [toList_log]
    exact .flatMap fun e he => escapesBegin_line (hsources e (List.mem_filter.1 he).1)

/-- Where no body has a line end in it, the lines of a text are found again. -/
theorem splitOn_lines {color : Bool} (h : ∀ e ∈ es, '\n' ∉ body color e) :
    (es.flatMap (line color)).splitOn '\n' = es.map (body color) ++ [[]] := by
  -- The first line end of the text is that of the first line.
  induction es with
  | nil => rfl
  | cons e es ih =>
    rw [List.flatMap_cons, line_eq_body, List.append_assoc, List.singleton_append,
      List.splitOn_append_cons_self_of_not_mem (h e List.mem_cons_self),
      ih fun e' he' => h e' (List.mem_cons_of_mem e he')]
    rfl

theorem count_lines {color : Bool} (h : ∀ e ∈ es, '\n' ∉ body color e) :
    (es.flatMap (line color)).count '\n' = es.length := by
  induction es with
  | nil => rfl
  | cons e es ih =>
    rw [List.flatMap_cons, line_eq_body, List.count_append, List.count_append,
      List.count_eq_zero_of_not_mem (h e List.mem_cons_self),
      ih fun e' he' => h e' (List.mem_cons_of_mem e he'), List.length_cons, Nat.add_comm es.length]
    rfl

theorem lined_of_messages (hsources : ∀ e ∈ es, e.source.toList.all isVisible = true)
    (hmessages : ∀ e ∈ es, '\n' ∉ e.message.toList) (threshold : Level) : Lined threshold es := by
  -- In colour a line starts with a style, so only the count is about both.
  have hbodies : ∀ color, ∀ e ∈ es.filter (fun e => threshold ≤ e.level), '\n' ∉ body color e := by
    intro color e he
    have hmem := (List.mem_filter.1 he).1
    exact newline_not_mem_body (hsources e hmem) (hmessages e hmem) color
  constructor
  case count =>
    intro color
    rw [toList_log, count_lines (hbodies color)]
  case symbols =>
    refine ⟨_, (toList_log threshold false es).symm ▸ splitOn_lines (hbodies false), ?_⟩
    intro l hl
    obtain ⟨e, -, rfl⟩ := List.mem_map.1 hl
    exact ⟨_, e.level.symbol_mem_symbols, symbol_prefix_body e⟩

end Event
end Egress
