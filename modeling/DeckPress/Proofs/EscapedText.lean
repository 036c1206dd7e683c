import DeckPress.Presentation.Lines

/-!
# What escaped text says

Reading an escaped text gives back the text that was escaped, but for its invisible characters. So
the lines into which an escaped text falls can be told from the plain text alone.
-/
namespace DeckPress.Text

/-- The lines of a plain text at its line ends of any kind, without the characters that are never
written. -/
def plainLines (cs : List Char) : List (List Char) :=
  pieces (· == '\n') ((withLineFeeds (visible cs)).filter fun c => !isControl c)

def plainTexts (s : String) : List String := (plainLines s.toList).map String.ofList

/-- The code points of the invisible characters. -/
def InvisiblePoint (n : Nat) : Prop :=
  0x2000 ≤ n ∧ n ≤ 0x200F ∨ 0x2028 ≤ n ∧ n ≤ 0x202F ∨ 0x205F ≤ n ∧ n ≤ 0x206F ∨ n = 0xFEFF

instance : DecidablePred InvisiblePoint := fun _ => inferInstanceAs (Decidable (_ ∨ _))

theorem isInvisible_iff (c : Char) : isInvisible c = true ↔ InvisiblePoint c.toNat := by
  simp only [isInvisible, InvisiblePoint, Bool.or_eq_true, Bool.and_eq_true, decide_eq_true_eq,
    beq_iff_eq, or_assoc]

theorem visible_eq_filter (cs : List Char) :
    visible cs = cs.filter fun c => ¬InvisiblePoint c.toNat := by
  unfold visible
  refine List.filter_congr fun c _ => ?_
  by_cases h : InvisiblePoint c.toNat
  · simp [(isInvisible_iff c).2 h, h]
  · simp [Bool.eq_false_iff.2 (mt (isInvisible_iff c).1 h), h]

/-- Escaping and reading again drops the invisible characters and keeps all others in their
order. -/
theorem unescape_sanitize (s : String) :
    unescape (sanitize s) =
      String.ofList (s.toList.filter fun c => ¬InvisiblePoint c.toNat) := by
  rw [unescape, sanitize, String.toList_ofList, decode_encode, visible_eq_filter]

/-- Backslashes before the letters of escapes, and an invisible character between two halves of
what would be one. -/
example : unescape (sanitize "\\\\n\\\u200bn\"\r\n\t") = "\\\\n\\n\"\r\n\t" := by decide +kernel

/-- The lines of an escaped text are those of the plain one. -/
theorem lines_encode (cs : List Char) : lines (encode cs) = plainLines cs := by
  rw [lines, decode_encode, plainLines]

theorem lines_sanitize (s : String) :
    (lines (sanitize s).toList).map String.ofList = plainTexts s := by
  rw [sanitize, String.toList_ofList, lines_encode, plainTexts]

theorem flatten_pieces (p : Char → Bool) (cs : List Char) :
    (pieces p cs).flatten = cs.filter fun c => !p c := by
  induction cs with
  | nil => rfl
  | cons c cs ih =>
    rw [pieces]
    split
    · next h => exact absurd h (pieces_ne_nil p cs)
    · next w ws h =>
      rw [h] at ih
      cases hc : p c with
      | true => simpa [hc] using ih
      | false => simpa [hc] using ih

theorem mem_of_mem_pieces {p : Char → Bool} {cs piece : List Char} {c : Char}
    (h : piece ∈ pieces p cs) (hc : c ∈ piece) : c ∈ cs ∧ p c = false := by
  have hflat : c ∈ (pieces p cs).flatten := List.mem_flatten.2 ⟨piece, h, hc⟩
  rw [flatten_pieces, List.mem_filter] at hflat
  simpa using hflat

theorem mem_withLineFeeds {c : Char} (hcr : c ≠ '\r') (hlf : c ≠ '\n') (cs : List Char) :
    c ∈ withLineFeeds cs ↔ c ∈ cs := by
  induction cs using withLineFeeds.induct with
  | case1 cs ih => simp [withLineFeeds, ih, hcr, hlf]
  | case2 cs hne ih =>
    rw [withLineFeeds]
    · simp [ih, hcr, hlf]
    · exact hne
  | case3 d cs _ _ ih =>
    rw [withLineFeeds]
    · simp [ih]
    all_goals assumption
  | case4 => simp [withLineFeeds]

/-- The two code points that no document can hold are neither dropped nor line ends. -/
theorem mem_plainLines_of_unwritable {c : Char} (h : isUnwritable c) (cs : List Char) :
    (∃ line ∈ plainLines cs, c ∈ line) ↔ c ∈ cs := by
  have hpoint : c.toNat = 0xFFFE ∨ c.toNat = 0xFFFF := by simpa [isUnwritable] using h
  have hcr : c ≠ '\r' := by
    rintro rfl
    exact absurd hpoint (by decide)
  have hlf : c ≠ '\n' := by
    rintro rfl
    exact absurd hpoint (by decide)
  have hcontrol : isControl c = false := by
    rcases hpoint with hn | hn <;> simp [isControl, hn]
  have hvisible : isInvisible c = false := by
    rcases hpoint with hn | hn <;> simp [isInvisible, hn]
  rw [← List.mem_flatten, plainLines, flatten_pieces, List.mem_filter, List.mem_filter,
    mem_withLineFeeds hcr hlf, visible, List.mem_filter]
  simp [hlf, hcontrol, hvisible]

theorem any_isUnwritable_plainLines (cs : List Char) :
    (∀ line ∈ plainLines cs, line.any isUnwritable = false) ↔ cs.any isUnwritable = false := by
  simp only [List.any_eq_false]
  constructor
  · intro h c hc hw
    obtain ⟨line, hline, hmem⟩ := (mem_plainLines_of_unwritable hw cs).2 hc
    exact h line hline c hmem hw
  · intro h line hline c hc hw
    exact h c ((mem_plainLines_of_unwritable hw cs).1 ⟨line, hline, hc⟩) hw

end DeckPress.Text
