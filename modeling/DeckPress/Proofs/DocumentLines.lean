import DeckPress.Proofs.WritableDecks

/-!
# What documents are given to hold

The lines behind an escaped text are what a document is given to hold. No line break is left in
them, and of the characters that documents cannot hold only two code points are: those that stand
for no character and that nothing drops. So a text can be drawn if and only if it has neither.
-/
namespace DeckPress

namespace Text

def DocumentPoint (n : Nat) : Prop :=
  n = 0x09 ∨ 0x20 ≤ n ∧ n ≤ 0xD7FF ∨ 0xE000 ≤ n ∧ n ≤ 0xFFFD ∨ 0x10000 ≤ n ∧ n ≤ 0x10FFFF

instance : DecidablePred DocumentPoint := fun _ => inferInstanceAs (Decidable (_ ∨ _))

/-- A character that ends a line. The control character `U+0085` ends none in a document, and is one
of those that it can hold. -/
def IsLineBreak (c : Char) : Prop := c ∈ ['\n', '\x0b', '\x0c', '\r', '\u2028', '\u2029']

instance : DecidablePred IsLineBreak := fun _ => inferInstanceAs (Decidable (_ ∈ _))

theorem isUnwritable_eq_false_iff (c : Char) :
    isUnwritable c = false ↔ c.toNat ≠ 0xFFFE ∧ c.toNat ≠ 0xFFFF := by
  simp [isUnwritable]

/-- Every code point of a character is one that a document can hold, a control character, a line
end, or one of the two that stand for no character. -/
theorem documentPoint_iff {c : Char} (hcontrol : isControl c = false) (hlf : c ≠ '\n')
    (hcr : c ≠ '\r') : DocumentPoint c.toNat ↔ isUnwritable c = false := by
  have hvalid : c.toNat < 0xD800 ∨ 0xDFFF < c.toNat ∧ c.toNat < 0x110000 := c.valid
  have hlf' : c.toNat ≠ 0x0A := fun h => hlf (Char.toNat_inj.1 h)
  have hcr' : c.toNat ≠ 0x0D := fun h => hcr (Char.toNat_inj.1 h)
  simp only [isControl, Bool.or_eq_false_iff, Bool.and_eq_false_iff, decide_eq_false_iff_not,
    beq_eq_false_iff_ne] at hcontrol
  rw [DocumentPoint, isUnwritable_eq_false_iff]
  omega

theorem carriageReturn_notMem_withLineFeeds (cs : List Char) : '\r' ∉ withLineFeeds cs := by
  induction cs using withLineFeeds.induct with
  | case1 cs ih => simp [withLineFeeds, ih]
  | case2 cs hne ih =>
    rw [withLineFeeds]
    · simp [ih]
    · exact hne
  | case3 d cs hpair hsingle ih =>
    rw [withLineFeeds]
    · have hd : '\r' ≠ d := fun h => hsingle h.symm
      simp [hd, ih]
    all_goals assumption
  | case4 => simp [withLineFeeds]

section Lines

variable {cs line : List Char} {c : Char} (h : line ∈ plainLines cs) (hc : c ∈ line)
include h hc

theorem of_mem_plainLines : c ∈ visible cs ∧ isControl c = false ∧ c ≠ '\n' ∧ c ≠ '\r' := by
  obtain ⟨hkept, hbar⟩ := mem_of_mem_pieces h hc
  have hlf : c ≠ '\n' := beq_eq_false_iff_ne.1 hbar
  rw [List.mem_filter] at hkept
  have hcr : c ≠ '\r' := by
    rintro rfl
    exact carriageReturn_notMem_withLineFeeds _ hkept.1
  exact ⟨(mem_withLineFeeds hcr hlf _).1 hkept.1, by simpa using hkept.2, hlf, hcr⟩

theorem documentPoint_iff_of_mem_plainLines : DocumentPoint c.toNat ↔ isUnwritable c = false := by
  obtain ⟨-, hcontrol, hlf, hcr⟩ := of_mem_plainLines h hc
  exact documentPoint_iff hcontrol hlf hcr

/-- The line breaks of documents are line ends, control characters or invisible. -/
theorem not_isLineBreak_of_mem_plainLines : ¬IsLineBreak c := by
  obtain ⟨hvisible, hcontrol, hlf, hcr⟩ := of_mem_plainLines h hc
  have hshown : isInvisible c = false := by
    simpa using (List.mem_filter.1 hvisible).2
  -- two are line ends, two are control characters, and two are invisible
  intro hbreak
  simp only [IsLineBreak, List.mem_cons, List.not_mem_nil, or_false] at hbreak
  rcases hbreak with rfl | rfl | rfl | rfl | rfl | rfl
  · exact hlf rfl
  · exact absurd hcontrol (by decide)
  · exact absurd hcontrol (by decide)
  · exact hcr rfl
  · exact absurd hshown (by decide)
  · exact absurd hshown (by decide)

end Lines

theorem forall_documentPoint_plainLines_iff (cs : List Char) :
    (∀ line ∈ plainLines cs, ∀ c ∈ line, DocumentPoint c.toNat) ↔
      ∀ c ∈ cs, isUnwritable c = false := by
  have hall : (∀ c ∈ cs, isUnwritable c = false) ↔ cs.any isUnwritable = false := by simp
  rw [hall, ← any_isUnwritable_plainLines]
  refine forall₂_congr fun line hline => ?_
  rw [List.any_eq_false]
  refine forall₂_congr fun c hc => ?_
  rw [documentPoint_iff_of_mem_plainLines hline hc, Bool.not_eq_true]

end Text

namespace Presentation

/-- What can be drawn with no text can be drawn with any text that can be written, and with no
other. -/
theorem exists_drawText_sanitize_iff {t : Drawing.Text Float}
    (h : ∃ ss, drawText { t with text := "" } = .ok ss) (s : String) :
    (∃ ss, drawText { t with text := Text.sanitize s } = .ok ss) ↔
      ∀ c ∈ s.toList, Text.isUnwritable c = false := by
  obtain ⟨hbackdrop, hbox⟩ := exists_drawText_iff.1 h
  obtain ⟨hframe, -, hfont⟩ := exists_textBox_iff.1 hbox
  have hlines : HasWritableLines { t with text := Text.sanitize s } ↔
      ∀ c ∈ s.toList, Text.isUnwritable c = false := by
    rw [hasWritableLines_iff rfl]
    simp
  rw [exists_drawText_iff, exists_textBox_iff, hlines]
  exact ⟨fun hdrawn => hdrawn.2.2.1, fun hall => ⟨hbackdrop, hframe, hall, hfont⟩⟩

end Presentation

namespace Text

open Presentation in
/-- The lines behind the escaped form of a text hold no line break, and only characters that
documents can hold, but for two code points that stand for no character. So they can all be held,
and the text be drawn wherever an empty one can, if and only if it has none of these two. -/
theorem lines_are_legal_iff (s : String) :
    (∀ line ∈ lines (sanitize s).toList, ∀ c ∈ line,
        (DocumentPoint c.toNat ∨ c.toNat = 0xFFFE ∨ c.toNat = 0xFFFF) ∧ ¬IsLineBreak c) ∧
      ((∀ line ∈ lines (sanitize s).toList, ∀ c ∈ line, DocumentPoint c.toNat) ↔
        ∀ c ∈ s.toList, c.toNat ≠ 0xFFFE ∧ c.toNat ≠ 0xFFFF) ∧
      ∀ t : Drawing.Text Float, (∃ ss, drawText { t with text := "" } = .ok ss) →
        ((∃ ss, drawText { t with text := sanitize s } = .ok ss) ↔
          ∀ c ∈ s.toList, c.toNat ≠ 0xFFFE ∧ c.toNat ≠ 0xFFFF) := by
  have hwritable : (∀ c ∈ s.toList, isUnwritable c = false) ↔
      ∀ c ∈ s.toList, c.toNat ≠ 0xFFFE ∧ c.toNat ≠ 0xFFFF :=
    forall₂_congr fun c _ => isUnwritable_eq_false_iff c
  rw [sanitize, String.toList_ofList, lines_encode]
  refine ⟨fun line hline c hc => ⟨?_, not_isLineBreak_of_mem_plainLines hline hc⟩, ?_,
    fun t ht => ?_⟩
  · rw [documentPoint_iff_of_mem_plainLines hline hc, isUnwritable_eq_false_iff]
    omega
  · rw [forall_documentPoint_plainLines_iff, hwritable]
  · rw [← hwritable]
    exact exists_drawText_sanitize_iff ht s

def heading : Drawing.Text Float :=
  { text := "", box := ⟨1, 1, 4, 1⟩, fontSize := 18, bold := true, color := "363636",
    align := .left, valign := .top, backdrop := some "F2F2F2" }

/-- Line ends of three kinds, control characters, a separator of lines, quotes, and a character
beyond the first plane. -/
def minutes : String := "1.\x0b \"A\"\r\n2.\u2028\x00\r\tB\x7f\n\\n\u0085😀"

open Presentation in
theorem lines_are_legal_minutes :
    (∃ ss, drawText { heading with text := "" } = .ok ss) ∧
      (∀ line ∈ lines (sanitize minutes).toList, ∀ c ∈ line, DocumentPoint c.toNat) ∧
      ∃ ss, drawText { heading with text := sanitize minutes } = .ok ss := by
  have hempty : ∃ ss, drawText { heading with text := "" } = .ok ss :=
    exists_eq_ok_of_isOk (by decide +kernel)
  have hminutes : ∀ c ∈ minutes.toList, c.toNat ≠ 0xFFFE ∧ c.toNat ≠ 0xFFFF := by
    have hnone : minutes.toList.any isUnwritable = false := by decide +kernel
    simpa [isUnwritable] using hnone
  obtain ⟨-, hlines, hdrawn⟩ := lines_are_legal_iff minutes
  exact ⟨hempty, hlines.2 hminutes, (hdrawn heading hempty).2 hminutes⟩

/-- A code point that stands for no character comes through to a line, and the text is not drawn. -/
theorem noncharacter_reaches_line :
    ¬∀ s : String, (∀ line ∈ lines (sanitize s).toList, ∀ c ∈ line,
        DocumentPoint c.toNat ∧ ¬IsLineBreak c) ∧
      ∀ t : Drawing.Text Float, (∃ ss, Presentation.drawText { t with text := "" } = .ok ss) →
        ∃ ss, Presentation.drawText { t with text := sanitize s } = .ok ss := by
  intro h
  have hline : ['x', '\ufffe', 'y'] ∈ lines (sanitize "x\ufffey").toList := by
    rw [sanitize, String.toList_ofList]
    decide
  obtain ⟨hpoint, -⟩ := (h "x\ufffey").1 _ hline '\ufffe' (by decide)
  exact absurd hpoint (by decide)

end Text

end DeckPress
