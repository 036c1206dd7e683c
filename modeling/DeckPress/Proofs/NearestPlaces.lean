import DeckPress.Proofs.OnCanvas

/-!
# Boxes are moved to the nearest place

A box is cut to the size of the canvas and then put where it sticks out on no side, as near as can
be to where it was. So a box that lies on the canvas stays as it is.
-/
namespace DeckPress

/-- Of all positions that keep a side on an extent, the one that is nearest to a wanted one. -/
structure IsNearest (extent side wanted position : ℚ) : Prop where
  start : 0 ≤ position
  stop : position + side ≤ extent
  nearest : ∀ p, 0 ≤ p → p + side ≤ extent → p ≠ position → |position - wanted| < |p - wanted|

namespace Canvas

section Axis

/-- Among the numbers from zero to a limit, the one that another is cut to is the nearest to it. -/
theorem abs_cut_sub_lt {limit wanted p : ℚ} (hp : 0 ≤ p) (hlimit : p ≤ limit)
    (hne : p ≠ min (max wanted 0) limit) :
    |min (max wanted 0) limit - wanted| < |p - wanted| := by
  rcases lt_or_ge wanted 0 with hbelow | hstart
  · rw [max_eq_right hbelow.le, min_eq_left (hp.trans hlimit)] at hne ⊢
    have hpos : 0 < p := lt_of_le_of_ne hp hne.symm
    rw [abs_of_pos (by linarith), abs_of_pos (by linarith)]
    linarith
  rw [max_eq_left hstart] at hne ⊢
  rcases le_or_gt wanted limit with hwithin | hbeyond
  · rw [min_eq_left hwithin] at hne ⊢
    rw [sub_self, abs_zero]
    exact abs_pos.2 (sub_ne_zero.2 hne)
  · rw [min_eq_right hbeyond.le] at hne ⊢
    have hless : p < limit := lt_of_le_of_ne hlimit hne
    rw [abs_of_neg (by linarith), abs_of_neg (by linarith)]
    linarith

variable {extent side : ℚ}

theorem isNearest_fitted (wanted : ℚ) (he : 0 < extent) (hs : 0 < side) :
    IsNearest extent (Scalar.least side extent) wanted
      (Scalar.least (Scalar.greatest wanted Scalar.zero)
        (extent - Scalar.least side extent)) := by
  have hspans := spans_fitted wanted he hs
  refine ⟨hspans.start, hspans.stop, fun p hp hstop hne => ?_⟩
  have hlimit : p ≤ extent - Scalar.least side extent := by linarith
  rw [Scalar.least_eq_min (Scalar.greatest wanted Scalar.zero), Scalar.greatest_eq_max,
    Scalar.zero_eq] at hne ⊢
  exact abs_cut_sub_lt hp hlimit hne

theorem fitted_eq_self {position : ℚ} (h : Spans extent position side) :
    Scalar.least side extent = side ∧
      Scalar.least (Scalar.greatest position Scalar.zero) (extent - side) = position := by
  have hstart := h.start
  have hstop := h.stop
  rw [Scalar.least_eq_min, Scalar.least_eq_min, Scalar.greatest_eq_max, Scalar.zero_eq,
    max_eq_left hstart]
  exact ⟨min_eq_left (by linarith), min_eq_left (by linarith)⟩

end Axis

theorem fit_eq_self {c : Canvas ℚ} {b : Box ℚ} (h : b.LiesOn c) : c.fit b = b := by
  obtain ⟨hw, hx⟩ := fitted_eq_self h.across
  obtain ⟨hh, hy⟩ := fitted_eq_self h.down
  simp only [fit, hw, hx, hh, hy]

/-- A box is cut to the size of the canvas and put on it, on both axes in the nearest position of
all that keep a box of that size on the canvas. So a box on the canvas stays as it is, and what has
been put on the canvas is not moved again. -/
theorem fit_is_nearest {c : Canvas ℚ} (hwidth : 0 < c.width) (hheight : 0 < c.height) {b : Box ℚ}
    (hw : 0 < b.w) (hh : 0 < b.h) :
    (c.fit b).LiesOn c ∧
      ((c.fit b).w = min b.w c.width ∧ (c.fit b).h = min b.h c.height) ∧
      (IsNearest c.width (c.fit b).w b.x (c.fit b).x ∧
        IsNearest c.height (c.fit b).h b.y (c.fit b).y) ∧
      (b.LiesOn c → c.fit b = b) ∧ c.fit (c.fit b) = c.fit b := by
  have hon : (c.fit b).LiesOn c := fit_liesOn hwidth hheight hw hh
  have hsize : (c.fit b).w = min b.w c.width ∧ (c.fit b).h = min b.h c.height :=
    ⟨Scalar.least_eq_min .., Scalar.least_eq_min ..⟩
  have hplace : IsNearest c.width (c.fit b).w b.x (c.fit b).x ∧
      IsNearest c.height (c.fit b).h b.y (c.fit b).y :=
    ⟨isNearest_fitted b.x hwidth hw, isNearest_fitted b.y hheight hh⟩
  exact ⟨hon, hsize, hplace, fit_eq_self, fit_eq_self hon⟩

theorem fit_is_nearest_banner :
    (⟨10, 15 / 2⟩ : Canvas ℚ).fit ⟨-3, 7, 12, 4⟩ = ⟨0, 7 / 2, 10, 4⟩ ∧
      IsNearest 10 10 (-3) 0 ∧ IsNearest (15 / 2) 4 7 (7 / 2) ∧
      (⟨10, 15 / 2⟩ : Canvas ℚ).fit ⟨0, 7 / 2, 10, 4⟩ = ⟨0, 7 / 2, 10, 4⟩ := by
  have hfit : (⟨10, 15 / 2⟩ : Canvas ℚ).fit ⟨-3, 7, 12, 4⟩ = ⟨0, 7 / 2, 10, 4⟩ := by
    norm_num [fit, Scalar.least_eq_min, Scalar.greatest_eq_max]
  obtain ⟨-, -, ⟨hx, hy⟩, -, hagain⟩ :=
    fit_is_nearest (c := ⟨10, 15 / 2⟩) (b := ⟨-3, 7, 12, 4⟩) (by norm_num) (by norm_num)
      (by norm_num) (by norm_num)
  rw [hfit] at hx hy hagain
  exact ⟨hfit, hx, hy, hagain⟩

end Canvas

end DeckPress
