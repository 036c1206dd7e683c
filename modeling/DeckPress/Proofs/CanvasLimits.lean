import DeckPress.Proofs.RoomyCanvas
import DeckPress.Proofs.RoundedLayouts

/-!
# How small a canvas may be

A templated slide has a place on a canvas if and only if the canvas is wider than its margins and
higher than what stands above and below a body, and, where an image takes its share of the body,
wide enough for a text beside it. All lengths are rounded on the way, but that moves no limit: each
is the double that its decimal spells.
-/
namespace DeckPress.Compiler

open Number

section Constants

theorem isExactly_margin : IsExactly (1 / 2) margin :=
  isExactly_of_parts (m := 4503599627370496) (e := -53) rfl (by norm_num)

theorem isExactly_margins : IsExactly 1 (Scalar.whole 2 * margin) :=
  isExactly_of_parts (m := 4503599627370496) (e := -52) rfl (by norm_num)

theorem isExactly_bodyTop : IsExactly (7205759403792794 / 2 ^ 52) bodyTop :=
  isExactly_of_parts (m := 7205759403792794) (e := -52) rfl (by norm_num)

theorem isExactly_barHeight : IsExactly (1 / 4) barHeight :=
  isExactly_of_parts (m := 4503599627370496) (e := -54) rfl (by norm_num)

theorem isExactly_imageShare : IsExactly (7205759403792794 / 2 ^ 54) imageShare :=
  isExactly_of_parts (m := 7205759403792794) (e := -54) rfl (by norm_num)

theorem isExactly_imageGap : IsExactly (5404319552844595 / 2 ^ 54) imageGap :=
  isExactly_of_parts (m := 5404319552844595) (e := -54) rfl (by norm_num)

theorem isExactly_titleTop : IsExactly (7205759403792794 / 2 ^ 54) titleTop :=
  isExactly_of_parts (m := 7205759403792794) (e := -54) rfl (by norm_num)

theorem isExactly_titleOnlyHeight : IsExactly (5 / 2) titleOnlyHeight :=
  isExactly_of_parts (m := 5629499534213120) (e := -51) rfl (by norm_num)

theorem isExactly_one : IsExactly 1 (Scalar.whole 1) :=
  isExactly_of_parts (m := 4503599627370496) (e := -52) rfl (by norm_num)

theorem isExactly_least_height : IsExactly (5291729562160333 / 2 ^ 51) (Scalar.decimal 235 2) :=
  isExactly_of_parts (m := 5291729562160333) (e := -51) rfl (by norm_num)

theorem isExactly_image_width : IsExactly (3 / 2) (Scalar.decimal 15 1) :=
  isExactly_of_parts (m := 6755399441055744) (e := -52) rfl (by norm_num)

end Constants

/-- Less by a constant, a double that is not far below zero stays in range. -/
theorem roundsTo_sub_const {x y : Float} {k : ℚ} (hx : Scalar.nonFinite? x = none)
    (hlow : -2 ^ 10 ≤ exact x) (hy : IsExactly k y) (hk : 0 ≤ k) (hk' : k ≤ 2 ^ 10) :
    RoundsTo (exact x - k) (x - y) := by
  have hupper := (abs_le.1 (isCanonical_parts hx).2).2
  have hlarge : (2 : ℚ) ^ 11 ≤ largest := le_largest (by norm_num)
  have hq : |exact x - k| ≤ largest := abs_le.2 ⟨by linarith, by linarith⟩
  rw [← hy.eq] at hq ⊢
  exact roundsTo_sub hx hy.finite hq

theorem sub_const_pos_iff {x y : Float} {k : ℚ} (hx : Scalar.nonFinite? x = none)
    (hlow : -2 ^ 10 ≤ exact x) (hy : IsExactly k y) (hk : 0 ≤ k) (hk' : k ≤ 2 ^ 10) :
    Scalar.zero < x - y ↔ k < exact x :=
  (roundsTo_sub_const hx hlow hy hk hk').pos_iff hy.isDouble (isDouble_exact hx)

section Canvas

variable {x : Float} (hx : Scalar.nonFinite? x = none) (h0 : 0 < exact x)
include hx h0

/-- The width between the margins is above zero if and only if the canvas is wider than both. -/
theorem inner_pos_iff : Scalar.zero < x - Scalar.whole 2 * margin ↔ 1 < exact x :=
  sub_const_pos_iff hx (by linarith) isExactly_margins (by norm_num) (by norm_num)

omit h0 in
theorem inner_within (h : 1 < exact x) :
    Scalar.nonFinite? (x - Scalar.whole 2 * margin) = none ∧
      1 / 2 ^ 52 ≤ exact (x - Scalar.whole 2 * margin) := by
  have hinner := roundsTo_sub_const hx (by linarith) isExactly_margins (by norm_num) (by norm_num)
  have hnext := (isDouble_exact hx).next_le (z := 2 ^ 52) (g := -52) le_rfl (by norm_num; exact h)
  refine ⟨hinner.finite, hinner.rounds.le _ ⟨1, -52, by norm_num, by norm_num, by norm_num⟩ ?_⟩
  norm_num at hnext ⊢
  linarith

theorem bodyHeight_spec :
    RoundsTo (exact x - 7205759403792794 / 2 ^ 52) (x - bodyTop) ∧
      RoundsTo (exact (x - bodyTop) - 1 / 2) (x - bodyTop - margin) ∧
      RoundsTo (exact (x - bodyTop - margin) - 1 / 4) (x - bodyTop - margin - barHeight) := by
  have h₁ := roundsTo_sub_const hx (by linarith) isExactly_bodyTop (by norm_num) (by norm_num)
  have hlow₁ := h₁.rounds.le (-2) ⟨-2, 0, by norm_num, by norm_num, by norm_num⟩ (by linarith)
  have h₂ := roundsTo_sub_const h₁.finite (by linarith) isExactly_margin (by norm_num) (by norm_num)
  have hlow₂ := h₂.rounds.le (-3) ⟨-3, 0, by norm_num, by norm_num, by norm_num⟩ (by linarith)
  have h₃ := roundsTo_sub_const h₂.finite (by linarith) isExactly_barHeight (by norm_num)
    (by norm_num)
  exact ⟨h₁, h₂, h₃⟩

theorem bodyHeight_within (h : 5291729562160333 / 2 ^ 51 < exact x) :
    Scalar.nonFinite? (x - bodyTop - margin - barHeight) = none ∧
      1 / 2 ^ 51 ≤ exact (x - bodyTop - margin - barHeight) := by
  obtain ⟨h₁, h₂, h₃⟩ := bodyHeight_spec hx h0
  have hdouble := isDouble_exact hx
  have hnext := hdouble.next_le (z := 5291729562160333) (g := -51) (by norm_num)
    (by norm_num; norm_num at h; exact h)
  norm_num at hnext
  have hlow₁ := h₁.rounds.le (3 / 4 + 1 / 2 ^ 51)
    ⟨1688849860263937, -51, by norm_num, by norm_num, by norm_num⟩ (by norm_num; linarith)
  have hlow₂ := h₂.rounds.le (1 / 4 + 1 / 2 ^ 51)
    ⟨562949953421313, -51, by norm_num, by norm_num, by norm_num⟩ (by linarith)
  have hlow₃ := h₃.rounds.le (1 / 2 ^ 51) ⟨1, -51, by norm_num, by norm_num, by norm_num⟩
    (by linarith)
  exact ⟨h₃.finite, hlow₃⟩

/-- The height of a body is above zero if and only if the canvas is high enough for what is above
and below it. -/
theorem bodyHeight_pos_iff :
    Scalar.zero < x - bodyTop - margin - barHeight ↔ 5291729562160333 / 2 ^ 51 < exact x := by
  obtain ⟨h₁, h₂, h₃⟩ := bodyHeight_spec hx h0
  rw [zero_lt_iff h₃.finite]
  constructor
  · intro h
    by_contra hle
    have hhigh₁ := h₁.rounds.ge (3 / 4) ⟨3, -2, by norm_num, by norm_num, by norm_num⟩ (by linarith)
    have hhigh₂ := h₂.rounds.ge (1 / 4) ⟨1, -2, by norm_num, by norm_num, by norm_num⟩ (by linarith)
    have hhigh₃ := h₃.rounds.ge 0 isDouble_zero (by linarith)
    linarith
  · intro h
    have hlow := (bodyHeight_within hx h0 h).2
    have hpos : (0 : ℚ) < 1 / 2 ^ 51 := by positivity
    linarith

end Canvas

section BesideImage

variable {v : Float} (hv : Scalar.nonFinite? v = none) (h0 : 0 ≤ exact v)
include hv h0

theorem besideWidth_spec :
    RoundsTo (exact v * (7205759403792794 / 2 ^ 54)) (v * imageShare) ∧
      RoundsTo (exact v - exact (v * imageShare)) (v - v * imageShare) ∧
      0 ≤ exact (v * imageShare) ∧ exact (v * imageShare) ≤ exact v := by
  have hshare := isExactly_imageShare
  have hlarge := (abs_le.1 (isCanonical_parts hv).2).2
  have hq : |exact v * exact imageShare| ≤ largest := by
    rw [hshare.eq, abs_of_nonneg (by positivity)]
    linarith
  have hmul := roundsTo_mul hv hshare.finite hq
  rw [hshare.eq] at hmul
  have hlow := hmul.rounds.le 0 isDouble_zero (by positivity)
  have hhigh := hmul.rounds.ge _ (isDouble_exact hv) (by linarith)
  have hq' : |exact v - exact (v * imageShare)| ≤ largest := by
    rw [abs_of_nonneg (by linarith)]
    linarith
  exact ⟨hmul, roundsTo_sub hv hmul.finite hq', hlow, hhigh⟩

/-- More than half an inch leaves more than the gap. -/
theorem gap_lt_of_half_lt (h : 1 / 2 < exact v) :
    5404319552844596 / 2 ^ 54 ≤ exact (v - v * imageShare) := by
  obtain ⟨hmul, hsub, hlow, hhigh⟩ := besideWidth_spec hv h0
  have hdouble := isDouble_exact hv
  have hnext := hdouble.next_le (z := 2 ^ 52) (g := -53) le_rfl (by norm_num; exact h)
  norm_num at hnext
  have hgap : IsDouble (5404319552844596 / 2 ^ 54) :=
    ⟨5404319552844596, -54, by norm_num, by norm_num, by norm_num⟩
  refine hsub.rounds.le _ hgap ?_
  rcases le_or_gt (exact v) (3 / 4) with hle | hgt
  · -- the difference to the gap is a double, and it is no less than the share
    have hrest := hdouble.sub_multiple (k := 5404319552844596) (g := -54) (by norm_num)
      (by norm_num; linarith) (by rw [abs_lt]; norm_num; constructor <;> linarith)
    have := hmul.rounds.ge _ hrest (by norm_num; linarith)
    norm_num at this
    linarith
  · have := hmul.rounds.ge _ (hdouble.half (by norm_num; linarith)) (by linarith)
    linarith

theorem le_gap_of_le_half (h : exact v ≤ 1 / 2) :
    exact (v - v * imageShare) ≤ 5404319552844595 / 2 ^ 54 := by
  obtain ⟨hmul, hsub, hlow, hhigh⟩ := besideWidth_spec hv h0
  have hdouble := isDouble_exact hv
  refine hsub.rounds.ge _ isExactly_imageGap.isDouble ?_
  rcases le_or_gt (exact v) (5404319552844595 / 2 ^ 54) with hle | hgt
  · linarith
  · have hrest := hdouble.sub_multiple (k := 5404319552844595) (g := -54) (by norm_num)
      (by norm_num at hgt ⊢; linarith)
      (by norm_num at hgt; rw [abs_lt]; norm_num; constructor <;> linarith)
    have := hmul.rounds.le _ hrest (by norm_num; linarith)
    norm_num at this
    linarith

/-- A width has room beside an image if and only if it is more than half an inch. -/
theorem beside_pos_iff :
    Scalar.zero < v - v * imageShare - imageGap ↔ 1 / 2 < exact v := by
  obtain ⟨hmul, hsub, hlow, hhigh⟩ := besideWidth_spec hv h0
  have hnonneg := hsub.rounds.le 0 isDouble_zero (by linarith)
  rw [sub_const_pos_iff hsub.finite (by linarith) isExactly_imageGap (by norm_num) (by norm_num)]
  constructor
  · intro h
    by_contra hle
    exact absurd (le_gap_of_le_half hv h0 (not_lt.1 hle)) (not_le.2 h)
  · intro h
    have := gap_lt_of_half_lt hv h0 h
    linarith

theorem beside_within (h : 1 / 2 < exact v) :
    Scalar.nonFinite? (v - v * imageShare - imageGap) = none ∧
      1 / 2 ^ 54 ≤ exact (v - v * imageShare - imageGap) := by
  obtain ⟨-, hsub, -, -⟩ := besideWidth_spec hv h0
  have hgap := gap_lt_of_half_lt hv h0 h
  have hbeside := roundsTo_sub_const hsub.finite (by linarith) isExactly_imageGap (by norm_num)
    (by norm_num)
  refine ⟨hbeside.finite, hbeside.rounds.le _ ⟨1, -54, by norm_num, by norm_num, by norm_num⟩ ?_⟩
  linarith

end BesideImage

theorem half_lt_inner_iff {x : Float} (hx : Scalar.nonFinite? x = none) (h0 : 0 < exact x) :
    1 / 2 < exact (x - Scalar.whole 2 * margin) ↔ 3 / 2 < exact x := by
  have hinner := roundsTo_sub_const hx (by linarith) isExactly_margins (by norm_num) (by norm_num)
  constructor
  · intro h
    by_contra hle
    have := hinner.rounds.ge (1 / 2) isExactly_margin.isDouble (by linarith)
    linarith
  · intro h
    have hnext := (isDouble_exact hx).next_le (z := 6755399441055744) (g := -52) (by norm_num)
      (by norm_num; exact h)
    norm_num at hnext
    have := hinner.rounds.le (1 / 2 + 1 / 2 ^ 52)
      ⟨2251799813685249, -52, by norm_num, by norm_num, by norm_num⟩ (by norm_num; linarith)
    have hpos : (0 : ℚ) < 1 / 2 ^ 52 := by positivity
    linarith

/-- All boxes of a layout are as high as its bounds, or what is left of them under a label. -/
theorem finite_h_of_drafts {l : Layout} {content : String} {b : Box Float}
    (h : ∀ d ∈ l.drafts content b, d.box.IsAdmitted) : Scalar.nonFinite? b.h = none := by
  cases l with
  | twoContent => exact (h _ List.mem_cons_self).h_finite
  | comparison =>
    have hbefore := h _ (List.mem_cons_of_mem _ (List.mem_cons_of_mem _ List.mem_cons_self))
    exact finite_of_sub hbefore.h_finite
  | _ => exact (h _ (List.mem_singleton_self _)).h_finite

/-- The canvas is large enough for a templated slide. -/
structure IsLargeFor (c : Canvas Float) (s : TemplatedSlide) : Prop where
  width_finite : Scalar.nonFinite? c.width = none
  height_finite : Scalar.nonFinite? c.height = none
  width : Scalar.whole 1 < c.width
  height : Scalar.decimal 235 2 < c.height
  besideImage : Layout.ofOption s.layout ≠ .titleOnly → s.imageQuery.isSome = true →
    Scalar.decimal 15 1 < c.width

theorem contentBox_x (c : Canvas Float) (hasImage : Bool) : (contentBox c hasImage).x = margin := by
  cases hasImage <;> rfl

theorem contentBox_y (c : Canvas Float) (hasImage : Bool) :
    (contentBox c hasImage).y = bodyTop := by
  cases hasImage <;> rfl

theorem contentBox_h (c : Canvas Float) (hasImage : Bool) :
    (contentBox c hasImage).h = c.height - bodyTop - margin - barHeight := by
  cases hasImage <;> rfl

section Limits

variable {c : Canvas Float} {s : TemplatedSlide}

section Wide

variable (hw : Scalar.nonFinite? c.width = none) (hw' : 1 < exact c.width)
include hw hw'

theorem titleDraft_isAdmitted_of_one_lt (title : String) :
    (titleDraft c title).box.IsAdmitted where
  x_finite := isExactly_margin.finite
  y_finite := isExactly_titleTop.finite
  w_finite := (inner_within hw hw').1
  h_finite := isExactly_one.finite
  w_pos := (inner_pos_iff hw (by linarith)).2 hw'
  h_pos := isExactly_one.zero_lt (by norm_num)

/-- The middle box is finite on every canvas that is, and has a constant height. -/
theorem middleBox_isAdmitted_of_one_lt (hh : Scalar.nonFinite? c.height = none)
    (hh' : 0 < exact c.height) : (middleBox c).IsAdmitted := by
  have hrest := roundsTo_sub_const hh (by linarith) isExactly_titleOnlyHeight (by norm_num)
    (by norm_num)
  have hlarge := (isCanonical_parts hrest.finite).2
  have hq : |exact (c.height - titleOnlyHeight) / exact (Scalar.whole 2)| ≤ largest := by
    rw [Layout.isExactly_two.eq, abs_div, abs_two]
    linarith [abs_nonneg (exact (c.height - titleOnlyHeight))]
  have hhalf := roundsTo_div hrest.finite Layout.isExactly_two.finite
    (by rw [Layout.isExactly_two.eq]; norm_num) hq
  exact
    { x_finite := isExactly_margin.finite
      y_finite := hhalf.finite
      w_finite := (inner_within hw hw').1
      h_finite := isExactly_titleOnlyHeight.finite
      w_pos := (inner_pos_iff hw (by linarith)).2 hw'
      h_pos := isExactly_titleOnlyHeight.zero_lt (by norm_num) }

theorem contentBox_w_within {hasImage : Bool} (himage : hasImage = true → 3 / 2 < exact c.width) :
    Scalar.nonFinite? (contentBox c hasImage).w = none ∧
      1 / 2 ^ 54 ≤ exact (contentBox c hasImage).w := by
  obtain ⟨hinner, hlow⟩ := inner_within hw hw'
  cases hasImage with
  | false => exact ⟨hinner, le_trans (by norm_num) hlow⟩
  | true =>
    have hnonneg : 0 ≤ exact (c.width - Scalar.whole 2 * margin) := le_trans (by positivity) hlow
    have hhalf := (half_lt_inner_iff hw (by linarith)).2 (himage rfl)
    exact beside_within hinner hnonneg hhalf

/-- The content of a slide with a title has bounds that any layout can divide. -/
theorem contentBox_isSpacious (hh : Scalar.nonFinite? c.height = none)
    (hh' : 5291729562160333 / 2 ^ 51 < exact c.height) {hasImage : Bool}
    (himage : hasImage = true → 3 / 2 < exact c.width) :
    Layout.IsSpacious (contentBox c hasImage) := by
  obtain ⟨hwidth, hwidth'⟩ := contentBox_w_within hw hw' himage
  obtain ⟨hheight, hheight'⟩ := bodyHeight_within hh (lt_trans (by norm_num) hh') hh'
  have hx := isExactly_margin
  have hy := isExactly_bodyTop
  rw [← contentBox_x c hasImage] at hx
  rw [← contentBox_y c hasImage] at hy
  rw [← contentBox_h c hasImage] at hheight hheight'
  exact
    { x_finite := hx.finite
      x_nonneg := by rw [hx.eq]; norm_num
      x_le := by rw [hx.eq]
      y_finite := hy.finite
      y_nonneg := by rw [hy.eq]; norm_num
      y_le := by rw [hy.eq]; norm_num
      w_finite := hwidth
      w_lower := hwidth'
      h_finite := hheight
      h_lower := le_trans (by norm_num) hheight' }

end Wide

theorem exists_parts_of_isLargeFor (h : IsLargeFor c s) : ∃ ps, parts c s = .ok ps := by
  have hwf := h.width_finite
  have hhf := h.height_finite
  have hw := (isExactly_one.lt_iff hwf).1 h.width
  have hh := (isExactly_least_height.lt_iff hhf).1 h.height
  have hbody : Layout.IsSpacious (contentBox c false) := contentBox_isSpacious hwf hw hhf hh nofun
  have hopen : IsOpen (bodyBox c) := ⟨hbody.w.zero_lt, hbody.h.zero_lt⟩
  by_cases hl : Layout.ofOption s.layout = .titleOnly
  · have hmiddle := middleBox_isAdmitted_of_one_lt hwf hw hhf (lt_trans (by norm_num) hh)
    exact (exists_parts_of_titleOnly hl).2
      ⟨hopen, ⟨hmiddle.w_pos, hmiddle.h_pos⟩, List.forall_mem_singleton.2 hmiddle⟩
  · have himage (hi : s.imageQuery.isSome = true) : 3 / 2 < exact c.width :=
      (isExactly_image_width.lt_iff hwf).1 (h.besideImage hl hi)
    have hcontent := contentBox_isSpacious hwf hw hhf hh himage
    have htitle := titleDraft_isAdmitted_of_one_lt hwf hw ""
    have hdrafts := Layout.drafts_isAdmitted_of_isSpacious hcontent (Layout.ofOption s.layout) ""
    exact (exists_parts_of_titled hl).2
      ⟨hopen, ⟨hcontent.w.zero_lt, hcontent.h.zero_lt⟩, htitle, hdrafts⟩

section Positive

variable (hw : Scalar.zero < c.width) (hh : Scalar.zero < c.height)
include hw hh

/-- Open bounds of a body bound a canvas of finite size. -/
theorem limits_of_isOpen (hwf : Scalar.nonFinite? c.width = none)
    (hhf : Scalar.nonFinite? c.height = none) (h : IsOpen (bodyBox c)) :
    Scalar.whole 1 < c.width ∧ Scalar.decimal 235 2 < c.height := by
  have hw' := (zero_lt_iff hwf).1 hw
  have hh' := (zero_lt_iff hhf).1 hh
  exact ⟨(isExactly_one.lt_iff hwf).2 ((inner_pos_iff hwf hw').1 h.1),
    (isExactly_least_height.lt_iff hhf).2 ((bodyHeight_pos_iff hhf hh').1 h.2)⟩

theorem isLargeFor_of_exists_parts (h : ∃ ps, parts c s = .ok ps) : IsLargeFor c s := by
  by_cases hl : Layout.ofOption s.layout = .titleOnly
  · obtain ⟨hopen, -, hdrafts⟩ := (exists_parts_of_titleOnly hl).1 h
    have hmiddle : (middleBox c).IsAdmitted := hdrafts _ (List.mem_singleton_self _)
    have hwf := finite_of_sub hmiddle.w_finite
    have hhf := finite_of_sub (finite_of_div hmiddle.y_finite)
    obtain ⟨hwidth, hheight⟩ := limits_of_isOpen hw hh hwf hhf hopen
    exact ⟨hwf, hhf, hwidth, hheight, fun hne => absurd hl hne⟩
  · obtain ⟨hopen, hcontent, htitle, hdrafts⟩ := (exists_parts_of_titled hl).1 h
    have hwf := finite_of_sub htitle.w_finite
    have hcontent_h := finite_h_of_drafts hdrafts
    rw [contentBox_h] at hcontent_h
    have hhf := finite_of_sub (finite_of_sub (finite_of_sub hcontent_h))
    obtain ⟨hwidth, hheight⟩ := limits_of_isOpen hw hh hwf hhf hopen
    refine ⟨hwf, hhf, hwidth, hheight, fun _ hi => ?_⟩
    have hw' := (zero_lt_iff hwf).1 hw
    obtain ⟨hinner, hlow⟩ := inner_within hwf ((isExactly_one.lt_iff hwf).1 hwidth)
    rw [hi] at hcontent
    have hhalf := (beside_pos_iff hinner (le_trans (by positivity) hlow)).1 hcontent.1
    exact (isExactly_image_width.lt_iff hwf).2 ((half_lt_inner_iff hwf hw').1 hhalf)

/-- A templated slide has a place on a canvas if and only if the canvas is large enough for it. -/
theorem exists_parts_iff_isLargeFor : (∃ ps, parts c s = .ok ps) ↔ IsLargeFor c s :=
  ⟨isLargeFor_of_exists_parts hw hh, exists_parts_of_isLargeFor⟩

end Positive

end Limits

end DeckPress.Compiler
