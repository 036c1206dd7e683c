import DeckPress.Compiler
import DeckPress.Presentation
import DeckPress.Proofs.AcceptedDecks
import DeckPress.Proofs.Doubles
import DeckPress.Settings

/-!
# Boxes that are fitted to a canvas

Whatever an admitted region asks for, its box on a canvas that settings can choose is no larger than
the canvas, and so it has a frame in whole units. This holds for shares beyond all bounds too.
-/
namespace DeckPress

open Number

theorem Percent.nonneg_share (p : Percent) : Nonneg (p.share : Float) :=
  (nonneg_magnitude ..).div (by decide : Positive (Scalar.whole 100))

namespace Length

variable {extent : Float}

theorem nonneg_onExtent (h : Positive extent) {l : Length Float} (hl : l.IsAdmitted true) :
    Nonneg (l.onExtent extent) := by
  cases l with
  | inches x => exact nonneg_of_pos (hl.2 rfl)
  | percent p => exact p.nonneg_share.mul h

theorem isNaN_onExtent (h : Positive extent) {l : Length Float} (hl : l.IsAdmitted false) :
    (l.onExtent extent).isNaN = false := by
  cases l with
  | inches x =>
    refine Bool.eq_false_iff.2 fun (hx : x.isNaN = true) => ?_
    have hnone := hl.1
    change (if x.isNaN then _ else _) = none at hnone
    rw [if_pos hx] at hnone
    cases hnone
  | percent p => exact (p.nonneg_share.mul h).isNaN_eq

end Length

namespace Presentation

/-- Small doubles are whole numbers of units, up to a rest. -/
theorem exists_units {x : Float} (h : Small (-47) x) : ∃ n, units x = .ok n := by
  have hunits : Small (-47 + -33 + 54) (x * 914400) :=
    h.mul (by decide) (by decide) (by decide)
  refine ⟨truncated (x * 914400), ?_⟩
  rw [units, finite, hunits.isNaN_eq, hunits.isInf_eq]
  rfl

theorem exists_frame {b : Box Float} (hx : Small (-47) b.x) (hy : Small (-47) b.y)
    (hw : Small (-47) b.w) (hh : Small (-47) b.h) : ∃ f, frame b = .ok f := by
  obtain ⟨x, hx⟩ := exists_units hx
  obtain ⟨y, hy⟩ := exists_units hy
  obtain ⟨w, hw⟩ := exists_units hw
  obtain ⟨h, hh⟩ := exists_units hh
  exact ⟨⟨x, y, w, h⟩, by rw [frame, hx, hy, hw, hh]; rfl⟩

end Presentation

namespace Canvas

/-- The sides of the canvas are above zero and far below where doubles end. -/
structure IsModest (c : Canvas Float) : Prop where
  width_positive : Positive c.width
  height_positive : Positive c.height
  width_small : Small (-49) c.width
  height_small : Small (-49) c.height

/-- A side of a box is cut to the extent, and then its position is moved onto the extent. -/
theorem small_fitted {extent position side : Float} (h : Small (-49) extent)
    (hp : position.isNaN = false) (hs : Nonneg side) :
    Small (-47) (Scalar.least side extent) ∧
      Small (-47) (Scalar.least (Scalar.greatest position Scalar.zero)
        (extent - Scalar.least side extent)) := by
  have hside : Small (-49) (Scalar.least side extent) := h.least hs
  refine ⟨hside.mono (by decide), ?_⟩
  have hrest : Small (-49 + 2) (extent - Scalar.least side extent) :=
    h.sub hside (by decide) (by decide)
  exact hrest.least (nonneg_greatest_zero hp)

theorem exists_frame_fit {c : Canvas Float} (hc : c.IsModest) {b : Box Float}
    (hx : b.x.isNaN = false) (hy : b.y.isNaN = false) (hw : Nonneg b.w) (hh : Nonneg b.h) :
    ∃ f, Presentation.frame (c.fit b) = .ok f := by
  obtain ⟨hw', hx'⟩ := small_fitted hc.width_small hx hw
  obtain ⟨hh', hy'⟩ := small_fitted hc.height_small hy hh
  exact Presentation.exists_frame hx' hy' hw' hh'

end Canvas

theorem CanvasChoice.isModest_canvas (k : CanvasChoice) : (k.canvas : Canvas Float).IsModest := by
  have h : (Positive (k.canvas : Canvas Float).width ∧ Positive (k.canvas : Canvas Float).height) ∧
      Small (-49) (k.canvas : Canvas Float).width ∧
        Small (-49) (k.canvas : Canvas Float).height := by
    cases k <;> decide
  exact ⟨h.1.1, h.1.2, h.2.1, h.2.2⟩

/-- An admitted region has a frame on the canvases that settings can choose. -/
theorem Compiler.exists_frame_regionBox (k : CanvasChoice) {r : Region Float}
    (h : r.IsAdmitted) : ∃ f, Presentation.frame (regionBox k.canvas r) = .ok f := by
  have hk := k.isModest_canvas
  exact Canvas.exists_frame_fit hk (Length.isNaN_onExtent hk.width_positive h.x)
    (Length.isNaN_onExtent hk.height_positive h.y) (Length.nonneg_onExtent hk.width_positive h.w)
    (Length.nonneg_onExtent hk.height_positive h.h)

end DeckPress
