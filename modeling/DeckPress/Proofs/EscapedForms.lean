import DeckPress.Proofs.EscapedText

/-!
# Which texts are escaped ones

An escaped text is a row of escapes and of characters that stand for themselves. Every such row is
the escaped form of the text that it says, and of no other text but for invisible characters.
-/
namespace DeckPress.Text

/-- What stands behind the backslash of an escape. -/
def escapeLetters : List Char := ['\\', '"', 'n', 'r', 't']

/-- What an escape stands for. -/
def escapedChars : List Char := ['\\', '"', '\n', '\r', '\t']

/-- The character stands for itself in an escaped text. -/
def IsPlain (c : Char) : Prop := c ∉ escapedChars ∧ ¬InvisiblePoint c.toNat

inductive IsEscaped : List Char → Prop
  | nil : IsEscaped []
  | escape {l : Char} {cs : List Char} (letter : l ∈ escapeLetters) (rest : IsEscaped cs) :
    IsEscaped ('\\' :: l :: cs)
  | plain {c : Char} {cs : List Char} (self : IsPlain c) (rest : IsEscaped cs) :
    IsEscaped (c :: cs)

theorem escapeLetter_eq_none_iff {c : Char} : escapeLetter c = none ↔ c ∉ escapedChars := by
  unfold escapeLetter escapedChars
  split <;> simp_all

theorem mem_escapeLetters_iff {l : Char} :
    l ∈ escapeLetters ↔ ∃ c, unescapeLetter l = some c := by
  unfold unescapeLetter escapeLetters
  split <;> simp_all

theorem escapeLetter_unescapeLetter {c l : Char} (h : unescapeLetter l = some c) :
    escapeLetter c = some l := by
  unfold unescapeLetter at h
  split at h <;> first | (injection h with h; subst h; rfl) | cases h

theorem not_invisible_of_escapeLetter {c l : Char} (h : escapeLetter c = some l) :
    ¬InvisiblePoint c.toNat := by
  unfold escapeLetter at h
  split at h <;> first | decide | cases h

theorem not_invisible_of_mem_visible {c : Char} {cs : List Char} (h : c ∈ visible cs) :
    ¬InvisiblePoint c.toNat := by
  rw [visible_eq_filter, List.mem_filter] at h
  exact of_decide_eq_true h.2

theorem encode_cons {c : Char} (h : ¬InvisiblePoint c.toNat) (cs : List Char) :
    encode (c :: cs) = escapeChar c ++ encode cs := by
  rw [encode, encode, visible_eq_filter, visible_eq_filter, List.filter_cons_of_pos (by simpa),
    List.flatMap_cons]

theorem escapeChar_of_escapeLetter {c l : Char} (h : escapeLetter c = some l) :
    escapeChar c = ['\\', l] := by
  rw [escapeChar, h]

theorem escapeChar_of_plain {c : Char} (h : IsPlain c) : escapeChar c = [c] := by
  rw [escapeChar, escapeLetter_eq_none_iff.2 h.1]

theorem IsEscaped.escapeChar_append {c : Char} {cs : List Char} (hc : ¬InvisiblePoint c.toNat)
    (h : IsEscaped cs) : IsEscaped (escapeChar c ++ cs) := by
  cases hl : escapeLetter c with
  | some l =>
    rw [escapeChar_of_escapeLetter hl]
    exact .escape (mem_escapeLetters_iff.2 ⟨c, unescapeLetter_escapeLetter hl⟩) h
  | none =>
    have hplain : IsPlain c := ⟨escapeLetter_eq_none_iff.1 hl, hc⟩
    rw [escapeChar_of_plain hplain]
    exact .plain hplain h

theorem isEscaped_flatMap_escapeChar {cs : List Char} (h : ∀ c ∈ cs, ¬InvisiblePoint c.toNat) :
    IsEscaped (cs.flatMap escapeChar) := by
  induction cs with
  | nil => exact .nil
  | cons c cs ih =>
    obtain ⟨hc, hcs⟩ := List.forall_mem_cons.1 h
    rw [List.flatMap_cons]
    exact (ih hcs).escapeChar_append hc

theorem isEscaped_encode (cs : List Char) : IsEscaped (encode cs) :=
  isEscaped_flatMap_escapeChar fun _ => not_invisible_of_mem_visible

/-- Escaping what an escaped text says gives the same escaped text. -/
theorem IsEscaped.encode_decode {t : List Char} (h : IsEscaped t) : encode (decode t) = t := by
  -- what is read as one piece, an escape or a plain character, is written as the same piece
  induction h with
  | nil => rfl
  | @escape l cs letter rest ih =>
    obtain ⟨c, hc⟩ := mem_escapeLetters_iff.1 letter
    have hl : escapeLetter c = some l := escapeLetter_unescapeLetter hc
    have hdecode : decode ('\\' :: l :: cs) = c :: decode cs := by
      simp only [decode, hc]
    rw [hdecode, encode_cons (not_invisible_of_escapeLetter hl), escapeChar_of_escapeLetter hl, ih,
      List.cons_append, List.singleton_append]
  | @plain c cs self rest ih =>
    have hchar : escapeChar c = [c] := escapeChar_of_plain self
    have hdecode : decode (c :: cs) = c :: decode cs := by
      rw [← decode_escapeChar_append, hchar, List.singleton_append]
    rw [hdecode, encode_cons self.2, hchar, ih, List.singleton_append]

theorem exists_encode_eq_iff {t : List Char} : (∃ cs, encode cs = t) ↔ IsEscaped t := by
  constructor
  · rintro ⟨cs, rfl⟩
    exact isEscaped_encode cs
  · intro h
    exact ⟨decode t, h.encode_decode⟩

theorem encode_decode_eq_self_iff {t : List Char} : encode (decode t) = t ↔ IsEscaped t :=
  ⟨fun h => exists_encode_eq_iff.1 ⟨decode t, h⟩, IsEscaped.encode_decode⟩

instance : DecidablePred IsEscaped := fun _ => decidable_of_iff _ encode_decode_eq_self_iff

/-- Two texts have one escaped form if and only if they differ in invisible characters alone. -/
theorem encode_eq_encode_iff {cs ds : List Char} :
    encode cs = encode ds ↔ visible cs = visible ds := by
  constructor
  · intro h
    rw [← decode_encode cs, h, decode_encode]
  · intro h
    rw [encode, h, encode]

theorem sanitize_eq_iff {s t : String} : sanitize s = t ↔ encode s.toList = t.toList := by
  rw [sanitize, ← String.toList_inj, String.toList_ofList]

/-- The escaped texts are the rows of escapes and of characters that stand for themselves, these are
the texts that reading and escaping again gives back, and texts that have one escaped form differ in
invisible characters alone. -/
theorem escaped_form_iff :
    (∀ t, (∃ s, sanitize s = t) ↔ IsEscaped t.toList) ∧
      (∀ t, sanitize (unescape t) = t ↔ IsEscaped t.toList) ∧
        ∀ s s', sanitize s = sanitize s' ↔
          (s.toList.filter fun c => ¬InvisiblePoint c.toNat) =
            s'.toList.filter fun c => ¬InvisiblePoint c.toNat := by
  refine ⟨fun t => ?_, fun t => ?_, fun s s' => ?_⟩
  · rw [← exists_encode_eq_iff]
    constructor
    · rintro ⟨s, hs⟩
      exact ⟨s.toList, sanitize_eq_iff.1 hs⟩
    · rintro ⟨cs, hcs⟩
      refine ⟨String.ofList cs, sanitize_eq_iff.2 ?_⟩
      rw [String.toList_ofList, hcs]
  · rw [sanitize_eq_iff, unescape, String.toList_ofList, encode_decode_eq_self_iff]
  · rw [sanitize_eq_iff, sanitize, String.toList_ofList, encode_eq_encode_iff, visible_eq_filter,
      visible_eq_filter]

/-- A backslash at the end, a letter that no escape has, and a quote are in no escaped text. -/
example : ¬IsEscaped "a\\".toList ∧ ¬IsEscaped "\\\\\\x".toList ∧ ¬IsEscaped "\\\\\"".toList ∧
    IsEscaped "\\\\x\\\"\\n".toList := by decide +kernel

end DeckPress.Text
