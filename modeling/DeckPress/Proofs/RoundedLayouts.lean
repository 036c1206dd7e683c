import DeckPress.Proofs.FiniteDoubles
import DeckPress.Proofs.LayoutRegions

/-!
# Layouts in doubles

A layout divides its bounds, and the parts are rounded. From bounds that are finite and not tiny it
makes boxes that are admitted, all of them: no part rounds to nothing, and none runs out of what
doubles can tell.
-/
namespace DeckPress

open Number

namespace Layout

theorem isExactly_two : IsExactly 2 (Scalar.whole 2) :=
  isExactly_of_parts (m := 4503599627370496) (e := -51) rfl (by norm_num)

theorem isExactly_three : IsExactly 3 (Scalar.whole 3) :=
  isExactly_of_parts (m := 6755399441055744) (e := -51) rfl (by norm_num)

theorem isExactly_five : IsExactly 5 (Scalar.whole 5) :=
  isExactly_of_parts (m := 5629499534213120) (e := -50) rfl (by norm_num)

theorem isExactly_gutter : IsExactly (7205759403792794 / 2 ^ 54) (Scalar.decimal 4 1) :=
  isExactly_of_parts (m := 7205759403792794) (e := -54) rfl (by norm_num)

theorem isExactly_label : IsExactly (5404319552844595 / 2 ^ 53) (Scalar.decimal 6 1) :=
  isExactly_of_parts (m := 5404319552844595) (e := -53) rfl (by norm_num)

/-- A finite double that is not tiny. -/
structure IsSize (x : Float) : Prop where
  finite : Scalar.nonFinite? x = none
  lower : 1 / 2 ^ 60 ≤ exact x

namespace IsSize

variable {x y : Float} (hx : IsSize x)
include hx

theorem pos : 0 < exact x := lt_of_lt_of_le (by positivity) hx.lower

theorem zero_lt : Scalar.zero < x := (zero_lt_iff hx.finite).2 hx.pos

theorem le_largest : exact x ≤ largest := (abs_le.1 (isCanonical_parts hx.finite).2).2

/-- A small part of a size is no more than half of it, and not nothing. -/
theorem div {k : ℚ} (hy : IsExactly k y) (hk : 2 ≤ k) (hk' : k ≤ 8) :
    Scalar.nonFinite? (x / y) = none ∧ exact x / 8 ≤ exact (x / y) ∧
      exact (x / y) ≤ exact x / 2 := by
  have hpos := hx.pos
  have hlower := hx.lower
  have hlarge := hx.le_largest
  have hle : exact x / k ≤ exact x / 2 := by gcongr
  have hge : exact x / 8 ≤ exact x / k := by gcongr
  have hq : |exact x / exact y| ≤ largest := by
    rw [hy.eq, abs_of_pos (by positivity)]
    linarith
  have hdiv := roundsTo_div hx.finite hy.finite (hy.eq.symm ▸ by positivity) hq
  rw [hy.eq] at hdiv
  have hhalf := (isDouble_exact hx.finite).half (by norm_num at hlower ⊢; linarith)
  have hquarter := hhalf.half (by norm_num at hlower ⊢; linarith)
  have heighth := hquarter.half (by norm_num at hlower ⊢; linarith)
  refine ⟨hdiv.finite, ?_, hdiv.rounds.ge _ hhalf hle⟩
  have := hdiv.rounds.le _ heighth (by linarith)
  linarith

/-- No more than half of a size can be taken off, and half of it is left. -/
theorem sub (hy : Scalar.nonFinite? y = none) (h0 : 0 ≤ exact y) (h : exact y ≤ exact x / 2) :
    Scalar.nonFinite? (x - y) = none ∧ exact x / 2 ≤ exact (x - y) ∧ exact (x - y) ≤ exact x := by
  have hpos := hx.pos
  have hlower := hx.lower
  have hlarge := hx.le_largest
  have hq : |exact x - exact y| ≤ largest := by
    rw [abs_of_nonneg (by linarith)]
    linarith
  have hsub := roundsTo_sub hx.finite hy hq
  have hhalf := (isDouble_exact hx.finite).half (by norm_num at hlower ⊢; linarith)
  exact ⟨hsub.finite, hsub.rounds.le _ hhalf (by linarith),
    hsub.rounds.ge _ (isDouble_exact hx.finite) (by linarith)⟩

end IsSize

/-- The lower of a constant and a part of a size. -/
theorem IsSize.least_div {x y z : Float} (hx : IsSize x) {k q : ℚ} (hy : IsExactly k y)
    (hk : 2 ≤ k) (hk' : k ≤ 8) (hz : IsExactly q z) (hq : 0 < q) :
    Scalar.nonFinite? (Scalar.least z (x / y)) = none ∧
      0 < exact (Scalar.least z (x / y)) ∧ exact (Scalar.least z (x / y)) ≤ q ∧
      exact (Scalar.least z (x / y)) ≤ exact x / 2 := by
  obtain ⟨hfinite, hlow, hhigh⟩ := hx.div hy hk hk'
  obtain ⟨hfinite', hleast⟩ := exact_least hz.finite hfinite
  have hpos := hx.pos
  rw [hleast, hz.eq]
  exact ⟨hfinite', lt_min hq (by linarith), min_le_left _ _, (min_le_right _ _).trans hhigh⟩

/-- Bounds near the corner of a canvas that are finite and not tiny. -/
structure IsSpacious (b : Box Float) : Prop where
  x_finite : Scalar.nonFinite? b.x = none
  x_nonneg : 0 ≤ exact b.x
  x_le : exact b.x ≤ 1 / 2
  y_finite : Scalar.nonFinite? b.y = none
  y_nonneg : 0 ≤ exact b.y
  y_le : exact b.y ≤ 2
  w_finite : Scalar.nonFinite? b.w = none
  w_lower : 1 / 2 ^ 54 ≤ exact b.w
  h_finite : Scalar.nonFinite? b.h = none
  h_lower : 1 / 2 ^ 54 ≤ exact b.h

section Spacious

variable {b : Box Float} (hb : IsSpacious b)
include hb

theorem IsSpacious.w : IsSize b.w := ⟨hb.w_finite, le_trans (by norm_num) hb.w_lower⟩

theorem IsSpacious.h : IsSize b.h := ⟨hb.h_finite, le_trans (by norm_num) hb.h_lower⟩

theorem gutter_within :
    Scalar.nonFinite? (gutter b) = none ∧ 0 < exact (gutter b) ∧ exact (gutter b) ≤ 1 ∧
      exact (gutter b) ≤ exact b.w / 2 := by
  obtain ⟨hfinite, hpos, hle, hhalf⟩ :=
    hb.w.least_div isExactly_five (by norm_num) (by norm_num) isExactly_gutter (by norm_num)
  exact ⟨hfinite, hpos, hle.trans (by norm_num), hhalf⟩

theorem columnWidth_within :
    Scalar.nonFinite? (columnWidth b) = none ∧ 0 < exact (columnWidth b) ∧
      exact (columnWidth b) ≤ exact b.w / 2 := by
  obtain ⟨hfinite, hpos, -, hhalf⟩ := gutter_within hb
  obtain ⟨hrest, hlow, hhigh⟩ := hb.w.sub hfinite hpos.le hhalf
  have hlower := hb.w_lower
  have hsize : IsSize (b.w - gutter b) := ⟨hrest, by norm_num at hlower ⊢; linarith⟩
  obtain ⟨hcolumn, hlow', hhigh'⟩ := hsize.div isExactly_two le_rfl (by norm_num)
  have := hsize.pos
  exact ⟨hcolumn, lt_of_lt_of_le (by linarith) hlow', hhigh'.trans (by linarith)⟩

/-- The right column starts at a finite position, as wide as the bounds may be. -/
theorem rightColumn_finite : Scalar.nonFinite? (rightColumn b).x = none := by
  obtain ⟨hgutter, hpos, hle, -⟩ := gutter_within hb
  obtain ⟨hcolumn, hpos', hle'⟩ := columnWidth_within hb
  have hx := hb.x_nonneg
  have hx' := hb.x_le
  have hlarge := hb.w.le_largest
  obtain ⟨unit, hunit, hlargest, hmiddle⟩ := exists_unit_largest
  rw [hlargest] at hlarge
  have hq : |exact b.x + exact (columnWidth b)| ≤ largest := by
    rw [hlargest, abs_of_nonneg (by linarith)]
    linarith
  have hadd := roundsTo_add hb.x_finite hcolumn hq
  have hlow := hadd.rounds.le 0 isDouble_zero (by linarith)
  have hhigh := hadd.rounds.ge _ hmiddle (by linarith)
  have hq' : |exact (b.x + columnWidth b) + exact (gutter b)| ≤ largest := by
    rw [hlargest, abs_of_nonneg (by linarith)]
    linarith
  exact (roundsTo_add hadd.finite hgutter hq').finite

theorem labelHeight_within :
    Scalar.nonFinite? (labelHeight b) = none ∧ 0 < exact (labelHeight b) ∧
      exact (labelHeight b) ≤ 1 ∧ exact (labelHeight b) ≤ exact b.h / 2 := by
  obtain ⟨hfinite, hpos, hle, hhalf⟩ :=
    hb.h.least_div isExactly_three (by norm_num) (by norm_num) isExactly_label (by norm_num)
  exact ⟨hfinite, hpos, hle.trans (by norm_num), hhalf⟩

theorem underLabel_finite : Scalar.nonFinite? (b.y + labelHeight b) = none := by
  obtain ⟨hlabel, hpos, hle, -⟩ := labelHeight_within hb
  have hy := hb.y_nonneg
  have hy' := hb.y_le
  have hq : |exact b.y + exact (labelHeight b)| ≤ largest := by
    rw [abs_of_nonneg (by linarith)]
    exact le_largest (by linarith)
  exact (roundsTo_add hb.y_finite hlabel hq).finite

theorem underLabel_pos :
    Scalar.nonFinite? (b.h - labelHeight b) = none ∧ 0 < exact (b.h - labelHeight b) := by
  obtain ⟨hlabel, hpos, -, hhalf⟩ := labelHeight_within hb
  obtain ⟨hrest, hlow, -⟩ := hb.h.sub hlabel hpos.le hhalf
  have := hb.h.pos
  exact ⟨hrest, lt_of_lt_of_le (by linarith) hlow⟩

/-- All boxes of a layout are admitted. -/
theorem drafts_isAdmitted_of_isSpacious (l : Layout) (content : String) :
    ∀ d ∈ l.drafts content b, d.box.IsAdmitted := by
  have hx := hb.x_finite
  have hy := hb.y_finite
  obtain ⟨hcolumn, hcolumn', -⟩ := columnWidth_within hb
  obtain ⟨hlabel, hlabel', -⟩ := labelHeight_within hb
  obtain ⟨hbody, hbody'⟩ := underLabel_pos hb
  have hright := rightColumn_finite hb
  have hunder := underLabel_finite hb
  have hcolumn₀ := (zero_lt_iff hcolumn).2 hcolumn'
  have hlabel₀ := (zero_lt_iff hlabel).2 hlabel'
  have hbody₀ := (zero_lt_iff hbody).2 hbody'
  cases l with
  | twoContent =>
    rw [drafts, List.forall_mem_cons, List.forall_mem_singleton]
    exact ⟨⟨hx, hy, hcolumn, hb.h_finite, hcolumn₀, hb.h.zero_lt⟩,
      ⟨hright, hy, hcolumn, hb.h_finite, hcolumn₀, hb.h.zero_lt⟩⟩
  | comparison =>
    simp only [drafts, List.forall_mem_cons]
    exact ⟨⟨hx, hy, hcolumn, hlabel, hcolumn₀, hlabel₀⟩,
      ⟨hright, hy, hcolumn, hlabel, hcolumn₀, hlabel₀⟩,
      ⟨hx, hunder, hcolumn, hbody, hcolumn₀, hbody₀⟩,
      ⟨hright, hunder, hcolumn, hbody, hcolumn₀, hbody₀⟩, List.forall_mem_nil _⟩
  | _ =>
    exact List.forall_mem_singleton.2
      ⟨hx, hy, hb.w_finite, hb.h_finite, hb.w.zero_lt, hb.h.zero_lt⟩

end Spacious

end Layout

end DeckPress
