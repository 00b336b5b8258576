import Egress.Failure
import Egress.Proofs.RoundTrip
import Egress.Proofs.SourceAddresses

/-!
# Messages — what the text of an error tells

A failure and a text that is no destination are each told in one sentence, with an address or the
text itself somewhere in it. Main statement: the sentence tells the kind of the error and what it is
about. A cause and a flow label are not in it, and everything else is, so no address and no text can
make one error look like another.
-/

namespace Egress

namespace Failure

/-! ## Kinds -/

/-- The ways to fail, without what was failed at. -/
inductive Kind
  | bind
  | connect
  | localEndpoint
  | unspecified
  | unassigned
  deriving DecidableEq, Repr

def kind : Failure → Kind
  | .bind _ _ => .bind
  | .connect _ _ => .connect
  | .localEndpoint _ => .localEndpoint
  | .unspecified _ => .unspecified
  | .unassigned _ => .unassigned

/-- The fourth word of a message, in front of which there may be an address. -/
def Kind.word : Kind → List Char
  | .bind => ['o', 'p', 'e', 'n']
  | .connect => ['r', 'o', 'u', 't', 'e']
  | .localEndpoint => ['r', 'e', 'a', 'd']
  | .unspecified => ['l', 'o', 'c', 'a', 'l']
  | .unassigned => ['i', 's']

theorem Kind.eq_of_word_eq {k l : Kind} (h : k.word = l.word) : k = l := by
  revert h
  cases k <;> cases l <;> decide

theorem Kind.space_not_mem_word (k : Kind) : ' ' ∉ k.word := by
  cases k <;> decide

/-- The third word is the address or one of the program's own; neither has a space in it. -/
theorem exists_message_eq (f : Failure) : ∃ third rest : List Char, ' ' ∉ third ∧
    f.message.toList = "network".toList ++ ' ' :: ("unavailable:".toList ++ ' ' ::
      (third ++ ' ' :: (f.kind.word ++ ' ' :: rest))) := by
  -- In each message the words in front of an address are split, and the address is left as it is.
  cases f with
  | bind bindPoint cause =>
    have hwords : "network unavailable: cannot open a UDP socket on ".toList =
        "network".toList ++ ' ' :: ("unavailable:".toList ++ ' ' ::
          ("cannot".toList ++ ' ' :: (Kind.bind.word ++ ' ' :: "a UDP socket on ".toList))) := by
      decide +kernel
    refine ⟨"cannot".toList, "a UDP socket on ".toList ++ bindPoint.text.toList, by decide, ?_⟩
    unfold message
    rw [String.toList_append, hwords]
    simp only [List.append_assoc, List.cons_append, kind]
  | connect remote cause =>
    have hwords : "network unavailable: no route towards ".toList =
        "network".toList ++ ' ' :: ("unavailable:".toList ++ ' ' ::
          ("no".toList ++ ' ' :: (Kind.connect.word ++ ' ' :: "towards ".toList))) := by
      decide +kernel
    refine ⟨"no".toList, "towards ".toList ++ remote.text.toList, by decide, ?_⟩
    unfold message
    rw [String.toList_append, hwords]
    simp only [List.append_assoc, List.cons_append, kind]
  | localEndpoint cause =>
    have hwords : "network unavailable: cannot read the local socket address".toList =
        "network".toList ++ ' ' :: ("unavailable:".toList ++ ' ' ::
          ("cannot".toList ++ ' ' :: (Kind.localEndpoint.word ++ ' ' ::
            "the local socket address".toList))) := by
      decide +kernel
    exact ⟨"cannot".toList, "the local socket address".toList, by decide, hwords⟩
  | unspecified remote =>
    have hwords : "network unavailable: no local address selected towards ".toList =
        "network".toList ++ ' ' :: ("unavailable:".toList ++ ' ' ::
          ("no".toList ++ ' ' :: (Kind.unspecified.word ++ ' ' ::
            "address selected towards ".toList))) := by
      decide +kernel
    refine ⟨"no".toList, "address selected towards ".toList ++ remote.text.toList, by decide, ?_⟩
    unfold message
    rw [String.toList_append, hwords]
    simp only [List.append_assoc, List.cons_append, kind]
  | unassigned ip =>
    have hspace : ' ' ∉ ip.text.toList := ip.not_mem_text (by decide) (by decide) (by decide)
    have hfront : "network unavailable: ".toList =
        "network".toList ++ ' ' :: ("unavailable:".toList ++ [' ']) := by
      decide +kernel
    have hback : " is not assigned to any local interface".toList =
        ' ' :: (Kind.unassigned.word ++ ' ' :: "not assigned to any local interface".toList) := by
      decide +kernel
    refine ⟨ip.text.toList, "not assigned to any local interface".toList, hspace, ?_⟩
    unfold message
    rw [String.toList_append, String.toList_append, hfront, hback]
    simp only [List.append_assoc, List.cons_append, List.nil_append, kind]

theorem getElem?_words_message (f : Failure) :
    (f.message.toList.splitOn ' ')[3]? = some f.kind.word := by
  obtain ⟨third, rest, hthird, hmessage⟩ := f.exists_message_eq
  have hfirst : ' ' ∉ "network".toList := by decide
  have hsecond : ' ' ∉ "unavailable:".toList := by decide
  rw [hmessage, List.splitOn_append_cons_self_of_not_mem hfirst,
    List.splitOn_append_cons_self_of_not_mem hsecond,
    List.splitOn_append_cons_self_of_not_mem hthird,
    List.splitOn_append_cons_self_of_not_mem f.kind.space_not_mem_word]
  rfl

theorem kind_eq_of_message_eq {f g : Failure} (h : f.message = g.message) : f.kind = g.kind := by
  have hword := f.getElem?_words_message
  rw [h, g.getElem?_words_message, Option.some.injEq] at hword
  exact Kind.eq_of_word_eq hword.symm

/-! ## Failures that are told alike -/

/-- Failures of one kind that are about one address. Causes and flow labels do not count. -/
inductive Alike : Failure → Failure → Prop
  | bind {bindPoint bindPoint' : Endpoint} {cause cause' : Cause} :
      bindPoint.withoutFlow = bindPoint'.withoutFlow →
      Alike (.bind bindPoint cause) (.bind bindPoint' cause')
  | connect {remote remote' : Endpoint} {cause cause' : Cause} :
      remote.withoutFlow = remote'.withoutFlow →
      Alike (.connect remote cause) (.connect remote' cause')
  | localEndpoint {cause cause' : Cause} : Alike (.localEndpoint cause) (.localEndpoint cause')
  | unspecified {remote remote' : Endpoint} :
      remote.withoutFlow = remote'.withoutFlow →
      Alike (.unspecified remote) (.unspecified remote')
  | unassigned {ip : Ip} : Alike (.unassigned ip) (.unassigned ip)

theorem alike_of_message_eq {f g : Failure} (h : f.message = g.message) : Alike f g := by
  match f, g, kind_eq_of_message_eq h with
  | .bind _ _, .bind _ _, _ =>
    unfold message at h
    exact .bind (Endpoint.text_eq_iff.1 ((String.append_right_inj _).1 h))
  | .connect _ _, .connect _ _, _ =>
    unfold message at h
    exact .connect (Endpoint.text_eq_iff.1 ((String.append_right_inj _).1 h))
  | .localEndpoint _, .localEndpoint _, _ =>
    exact .localEndpoint
  | .unspecified _, .unspecified _, _ =>
    unfold message at h
    exact .unspecified (Endpoint.text_eq_iff.1 ((String.append_right_inj _).1 h))
  | .unassigned _, .unassigned _, _ =>
    unfold message at h
    -- The address is told in the middle of the sentence.
    have hip := (String.append_right_inj _).1 ((String.append_left_inj _).1 h)
    obtain rfl := Ip.text_eq_text_iff.1 hip
    exact .unassigned

theorem Alike.message_eq {f g : Failure} (h : Alike f g) : f.message = g.message := by
  cases h with
  | bind h =>
    unfold message
    simp only [Endpoint.text_eq_iff.2 h]
  | connect h =>
    unfold message
    simp only [Endpoint.text_eq_iff.2 h]
  | localEndpoint => rfl
  | unspecified h =>
    unfold message
    simp only [Endpoint.text_eq_iff.2 h]
  | unassigned => rfl

/-- The message of a failure starts as that of no other error does. -/
theorem head?_message (f : Failure) : f.message.toList.head? = some 'n' := by
  obtain ⟨third, rest, -, hmessage⟩ := f.exists_message_eq
  rw [hmessage]
  rfl

end Failure

namespace Destination.Error

theorem toList_message_malformed (text : String) : (malformed text).message.toList =
    '\'' :: (text.toList ++ "' is not an IP address or IP:port pair".toList) := by
  unfold message
  rw [String.toList_append, String.toList_append, List.append_assoc]
  rfl

theorem message_malformed_ne_zeroPort (text : String) :
    (malformed text).message ≠ zeroPort.message := by
  intro h
  have hhead : some '\'' = zeroPort.message.toList.head? := by
    rw [← h, toList_message_malformed, List.head?_cons]
  exact absurd hhead (by decide)

theorem message_eq_iff {e e' : Destination.Error} : e.message = e'.message ↔ e = e' := by
  constructor
  · intro h
    cases e with
    | malformed text =>
      cases e' with
      | malformed text' =>
        -- The words on both sides of the text are the same, so they can be taken away.
        have hchars := congrArg String.toList h
        rw [toList_message_malformed, toList_message_malformed, List.cons.injEq,
          List.append_left_inj, String.toList_inj] at hchars
        rw [hchars.2]
      | zeroPort => exact absurd h (message_malformed_ne_zeroPort text)
    | zeroPort =>
      cases e' with
      | malformed text' => exact absurd h.symm (message_malformed_ne_zeroPort text')
      | zeroPort => rfl
  · rintro rfl
    rfl

/-- An error of a destination starts with a quote or with the word for a port. -/
theorem head?_message_ne (e : Destination.Error) : e.message.toList.head? ≠ some 'n' := by
  cases e with
  | malformed text =>
    rw [toList_message_malformed, List.head?_cons]
    decide
  | zeroPort => decide

end Destination.Error

/-! ## Errors and their messages -/

/-- Two failures have the same message exactly if they are of one kind and about one address, up to
its flow label and whatever their causes are. Two errors of destinations have the same message
exactly if they are the same. No failure has the message of such an error. -/
theorem message_tells_error :
    (∀ f g : Failure, f.message = g.message ↔ Failure.Alike f g) ∧
    (∀ e e' : Destination.Error, e.message = e'.message ↔ e = e') ∧
    ∀ (f : Failure) (e : Destination.Error), f.message ≠ e.message := by
  refine ⟨fun f g => ⟨Failure.alike_of_message_eq, Failure.Alike.message_eq⟩,
    fun e e' => Destination.Error.message_eq_iff, fun f e h => ?_⟩
  -- The first character tells the two apart, also where a text is quoted that reads like a failure.
  have hhead := f.head?_message
  rw [h] at hhead
  exact e.head?_message_ne hhead

end Egress
