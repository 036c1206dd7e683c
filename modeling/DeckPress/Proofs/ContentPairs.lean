import DeckPress.Layout
import DeckPress.Proofs.Words

/-!
# Pairs in a content

Two columns share one content, with a bar between their texts. What stands before the first bar and
what stands after it are the halves of the content, and each column gets one of them without the
blanks at its ends. Later bars belong to the right half, and a content without a bar is all left
half. So nothing but the bar and those blanks is lost, and what is put together again from a pair
falls into the same pair.
-/
namespace DeckPress

open Text

namespace Layout

variable {s l r : String}

/-- The text before the first bar of a content and the text after it; without a bar there is nothing
after it. -/
inductive Halves : String → String → String → Prop
  | barred {l : String} (hl : '|' ∉ l.toList) (r : String) : Halves (l ++ "|" ++ r) l r
  | whole {l : String} (hl : '|' ∉ l.toList) : Halves l l ""

theorem exists_halves (s : String) : ∃ l r, Halves s l r := by
  by_cases hs : '|' ∈ s.toList
  · obtain ⟨before, after, hsplit, hbefore⟩ := List.eq_append_cons_of_mem hs
    have hjoined : s = String.ofList before ++ "|" ++ String.ofList after := by
      rw [← String.toList_inj, hsplit]
      simp
    refine ⟨String.ofList before, String.ofList after, ?_⟩
    rw [hjoined]
    exact .barred (by simpa using hbefore) _
  · exact ⟨s, "", .whole hs⟩

theorem Halves.bar_not_mem (h : Halves s l r) : '|' ∉ l.toList := by
  cases h with
  | barred hl r => exact hl
  | whole hl => exact hl

theorem Halves.splitPair_eq (h : Halves s l r) : splitPair s = (trimmed l, trimmed r) := by
  have hbefore : ∀ c ∈ l.toList, (c != '|') = true := by
    intro c hc
    simpa using ne_of_mem_of_not_mem hc h.bar_not_mem
  cases h with
  | barred hl r =>
    have hspan : (l ++ "|" ++ r).toList.span (· != '|') = (l.toList, '|' :: r.toList) := by
      have hchars : (l ++ "|" ++ r).toList = l.toList ++ '|' :: r.toList := by simp
      rw [hchars]
      exact span_append hbefore (by simp)
    rw [splitPair, hspan]
    rfl
  | whole hl =>
    rw [splitPair, span_eq_self hbefore]
    rfl

theorem splitPair_append (hl : '|' ∉ l.toList) (r : String) :
    splitPair (l ++ "|" ++ r) = (trimmed l, trimmed r) :=
  (Halves.barred hl r).splitPair_eq

/-- Only a bar and blanks are lost: the halves of a content are cut at its first bar and trimmed, and
joined by a bar they are cut into the same halves again. A missing content counts as an empty one. -/
theorem splitPair_loses_bar_and_blanks (content : Option String) :
    let s := content.getD ""
    let pair := splitPair s
    ('|' ∉ pair.1.toList ∧ IsTrimmed pair.1.toList ∧ IsTrimmed pair.2.toList) ∧
      ('|' ∉ s.toList → pair = (trimmed s, "")) ∧
      (∀ l r, '|' ∉ l.toList → splitPair (l ++ "|" ++ r) = (trimmed l, trimmed r)) ∧
      splitPair (pair.1 ++ "|" ++ pair.2) = pair := by
  intro s pair
  obtain ⟨l, r, h⟩ := exists_halves s
  have hpair : pair = (trimmed l, trimmed r) := h.splitPair_eq
  have hbar : '|' ∉ (trimmed l).toList := by
    rw [toList_trimmed]
    exact mt mem_of_mem_trimBy h.bar_not_mem
  rw [hpair]
  refine ⟨⟨hbar, ?_, ?_⟩, fun hs => ?_, fun _ r hl => splitPair_append hl r, ?_⟩
  · exact isTrimmed_trimmed l
  · exact isTrimmed_trimmed r
  · rw [← hpair]
    exact (Halves.whole hs).splitPair_eq
  · rw [splitPair_append hbar, trimmed_trimmed, trimmed_trimmed]

theorem splitPair_loses_bar_and_blanks_lakes :
    splitPair "\t\u2003North | the lake|south\u00a0" = ("North", "the lake|south") ∧
      splitPair ("North" ++ "|" ++ "the lake|south") = ("North", "the lake|south") ∧
      splitPair " no bar\n" = ("no bar", "") := by
  obtain ⟨-, -, hcut, hagain⟩ :=
    splitPair_loses_bar_and_blanks (some "\t\u2003North | the lake|south\u00a0")
  obtain ⟨-, hwhole, -, -⟩ := splitPair_loses_bar_and_blanks (some " no bar\n")
  have hpair : splitPair "\t\u2003North | the lake|south\u00a0" = ("North", "the lake|south") :=
    (hcut "\t\u2003North " " the lake|south\u00a0" (by decide)).trans (by decide)
  rw [Option.getD_some, hpair] at hagain
  exact ⟨hpair, hagain, (hwhole (by decide)).trans (by decide)⟩

end Layout

end DeckPress
