import DeckPress.Proofs.RoomyCanvas
import DeckPress.Settings

/-!
# Slides on the two canvases

The canvases that settings can choose have room for templated slides. As boxes do not depend on
texts, this is a matter of finitely many numbers, and no slide fails to be assembled there.
-/
namespace DeckPress

theorem Layout.mem_words (l : Layout) : (l.word, l) ∈ words := by
  cases l <;> decide

namespace Compiler

variable {σ : Type}

theorem besideImage_isAdmitted (k : CanvasChoice) :
    (besideImage (bodyBox (k.canvas : Canvas Float))).IsAdmitted := by
  cases k <;> decide +kernel

theorem titleDraft_isAdmitted (k : CanvasChoice) :
    (titleDraft (k.canvas : Canvas Float) "").box.IsAdmitted := by
  cases k <;> decide +kernel

/-- Each of the boxes is worked out once for all layouts. -/
theorem contentBox_drafts_isAdmitted (k : CanvasChoice) (l : Layout) (hasImage : Bool) :
    ∀ d ∈ l.drafts "" (contentBox (k.canvas : Canvas Float) hasImage), d.box.IsAdmitted := by
  have h : ∀ hasImage : Bool, ∀ p ∈ Layout.words,
      ∀ d ∈ p.2.drafts "" (contentBox (k.canvas : Canvas Float) hasImage), d.box.IsAdmitted := by
    cases k <;> decide +kernel
  exact h hasImage (l.word, l) l.mem_words

theorem middleBox_drafts_isAdmitted (k : CanvasChoice) :
    ∀ d ∈ Layout.titleOnly.drafts "" (middleBox (k.canvas : Canvas Float)), d.box.IsAdmitted := by
  cases k <;> decide +kernel

theorem hasRoom_canvas (k : CanvasChoice) : HasRoom (k.canvas : Canvas Float) where
  body := by cases k <;> decide
  middle := by cases k <;> decide
  beside := besideImage_isAdmitted k
  title := titleDraft_isAdmitted k
  lone := middleBox_drafts_isAdmitted k
  content := contentBox_drafts_isAdmitted k

/-- No slide fails to be assembled on the canvases that settings can choose. -/
theorem assembles_of_choice {c : Compiler Float σ} {k : CanvasChoice} (h : c.canvas = k.canvas) :
    c.Assembles :=
  HasRoom.assembles (h ▸ hasRoom_canvas k)

end Compiler

end DeckPress
