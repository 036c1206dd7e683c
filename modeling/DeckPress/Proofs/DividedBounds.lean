import DeckPress.Proofs.OnCanvas

/-!
# Layouts divide their bounds

A layout cuts its bounds into boxes that lie inside them and do not overlap, however small the
bounds are. Two columns have one width and reach the edges on both sides; what stands under a label
begins where the label ends and reaches the lower edge.
-/
namespace DeckPress

namespace Box

theorem overlaps_comm {α : Type} [Scalar α] (a b : Box α) : a.overlaps b = b.overlaps a := by
  unfold overlaps
  ac_rfl

theorem overlaps_iff {a b : Box ℚ} :
    a.overlaps b = true ↔
      (a.x < b.x + b.w ∧ b.x < a.x + a.w) ∧ a.y < b.y + b.h ∧ b.y < a.y + a.h := by
  simp only [overlaps, Bool.and_eq_true, decide_eq_true_eq, and_assoc]
  rfl

/-- Boxes that do not overlap stand side by side or one above the other. -/
theorem overlaps_eq_false_iff {a b : Box ℚ} :
    a.overlaps b = false ↔
      (b.x + b.w ≤ a.x ∨ a.x + a.w ≤ b.x) ∨ b.y + b.h ≤ a.y ∨ a.y + a.h ≤ b.y := by
  rw [← Bool.not_eq_true, overlaps_iff, not_and_or, not_and_or, not_and_or]
  simp only [not_lt]

structure LiesIn (a b : Box ℚ) : Prop where
  left : b.x ≤ a.x
  right : a.x + a.w ≤ b.x + b.w
  top : b.y ≤ a.y
  bottom : a.y + a.h ≤ b.y + b.h

theorem LiesIn.refl (b : Box ℚ) : b.LiesIn b := ⟨le_rfl, le_rfl, le_rfl, le_rfl⟩

theorem LiesIn.trans {a b z : Box ℚ} (h : a.LiesIn b) (h' : b.LiesIn z) : a.LiesIn z :=
  ⟨h'.left.trans h.left, h.right.trans h'.right, h'.top.trans h.top, h.bottom.trans h'.bottom⟩

theorem LiesIn.liesOn {c : Canvas ℚ} {a b : Box ℚ} (h : a.LiesIn b) (hb : b.LiesOn c)
    (hw : 0 < a.w) (hh : 0 < a.h) : a.LiesOn c where
  across := ⟨hb.across.start.trans h.left, hw, h.right.trans hb.across.stop⟩
  down := ⟨hb.down.start.trans h.top, hh, h.bottom.trans hb.down.stop⟩

/-- Parts of boxes that do not overlap do not overlap. -/
theorem overlaps_eq_false_of_liesIn {a a' b b' : Box ℚ} (ha : a.LiesIn a') (hb : b.LiesIn b')
    (h : a'.overlaps b' = false) : a.overlaps b = false := by
  have hleft := ha.left
  have hright := ha.right
  have htop := ha.top
  have hbottom := ha.bottom
  have hleft' := hb.left
  have hright' := hb.right
  have htop' := hb.top
  have hbottom' := hb.bottom
  rw [overlaps_eq_false_iff] at h ⊢
  rcases h with (h | h) | h | h
  · exact .inl (.inl (by linarith))
  · exact .inl (.inr (by linarith))
  · exact .inr (.inl (by linarith))
  · exact .inr (.inr (by linarith))

end Box

namespace Layout

open Box

section Cuts

variable {b : Box ℚ}

theorem gutter_nonneg (hw : 0 < b.w) : 0 ≤ gutter b := by
  rw [gutter, Scalar.least_eq_min, Scalar.decimal_eq, Scalar.whole_eq]
  exact le_min (by positivity) (by positivity)

/-- Two columns and the gutter between them are as wide as the bounds. -/
theorem columns_width (b : Box ℚ) : columnWidth b + gutter b + columnWidth b = b.w := by
  rw [columnWidth, Scalar.whole_eq]
  push_cast
  ring

theorem leftColumn_liesIn (hw : 0 < b.w) : (leftColumn b).LiesIn b := by
  have hgutter := gutter_nonneg hw
  have hcolumn := columnWidth_pos hw
  have hwidth := columns_width b
  constructor
  · exact le_rfl
  · change b.x + columnWidth b ≤ b.x + b.w
    linarith
  · exact le_rfl
  · exact le_rfl

theorem rightColumn_liesIn (hw : 0 < b.w) : (rightColumn b).LiesIn b := by
  have hgutter := gutter_nonneg hw
  have hcolumn := columnWidth_pos hw
  have hwidth := columns_width b
  constructor
  · change b.x ≤ b.x + columnWidth b + gutter b
    linarith
  · change b.x + columnWidth b + gutter b + columnWidth b ≤ b.x + b.w
    linarith
  · exact le_rfl
  · exact le_rfl

theorem columns_apart (hw : 0 < b.w) : (leftColumn b).overlaps (rightColumn b) = false := by
  have hgutter := gutter_nonneg hw
  refine overlaps_eq_false_iff.2 (.inl (.inr ?_))
  change b.x + columnWidth b ≤ b.x + columnWidth b + gutter b
  linarith

theorem upperPart_liesIn {h : ℚ} (hh : h ≤ b.h) : (upperPart h b).LiesIn b where
  left := le_rfl
  right := le_rfl
  top := le_rfl
  bottom := (add_le_add_iff_left b.y).2 hh

theorem lowerPart_liesIn {h : ℚ} (hh : 0 ≤ h) : (lowerPart h b).LiesIn b where
  left := le_rfl
  right := le_rfl
  top := le_add_of_nonneg_right hh
  bottom := by
    change b.y + h + (b.h - h) ≤ b.y + b.h
    linarith

theorem upperPart_apart_lowerPart (h : ℚ) (b : Box ℚ) :
    (upperPart h b).overlaps (lowerPart h b) = false :=
  overlaps_eq_false_iff.2 (.inr (.inr le_rfl))

end Cuts

section Parts

variable {b : Box ℚ} (hh : 0 < b.h)
include hh

theorem label_liesIn {z : Box ℚ} (hz : z.h = b.h) : (upperPart (labelHeight b) z).LiesIn z := by
  have hlabel := labelHeight_le b
  exact upperPart_liesIn (by linarith)

theorem underLabel_liesIn (z : Box ℚ) : (lowerPart (labelHeight b) z).LiesIn z :=
  lowerPart_liesIn (labelHeight_pos hh).le

end Parts

variable {b : Box ℚ} (hw : 0 < b.w) (hh : 0 < b.h)
include hw hh

theorem drafts_liesIn (l : Layout) (content : String) :
    ∀ d ∈ l.drafts content b, d.box.LiesIn b := by
  have hleft := leftColumn_liesIn hw
  have hright := rightColumn_liesIn hw
  cases l with
  | twoContent =>
    rw [drafts, List.forall_mem_cons, List.forall_mem_singleton]
    exact ⟨hleft, hright⟩
  | comparison =>
    simp only [drafts, List.forall_mem_cons]
    have hleftLabel := label_liesIn hh (z := leftColumn b) rfl
    have hrightLabel := label_liesIn hh (z := rightColumn b) rfl
    have hleftText := underLabel_liesIn hh (leftColumn b)
    have hrightText := underLabel_liesIn hh (rightColumn b)
    exact ⟨hleftLabel.trans hleft, hrightLabel.trans hright, hleftText.trans hleft,
      hrightText.trans hright, List.forall_mem_nil _⟩
  | _ => exact List.forall_mem_singleton.2 (LiesIn.refl b)

/-- No two boxes of a layout overlap, however small the bounds are. -/
theorem drafts_apart (l : Layout) (content : String) :
    ((l.drafts content b).map Draft.box).Pairwise fun a b => a.overlaps b = false := by
  have hcolumns := columns_apart hw
  have hcolumns' := (overlaps_comm (rightColumn b) (leftColumn b)).trans hcolumns
  cases l with
  | twoContent =>
    rw [drafts, List.map_cons, List.map_singleton, List.pairwise_pair]
    exact hcolumns
  | comparison =>
    -- labels and what stands under them are apart if their columns are, else one is below the other
    have hleftLabel := label_liesIn hh (z := leftColumn b) rfl
    have hrightLabel := label_liesIn hh (z := rightColumn b) rfl
    have hleftText := underLabel_liesIn hh (leftColumn b)
    have hrightText := underLabel_liesIn hh (rightColumn b)
    simp only [drafts, List.map_cons, List.map_nil, List.pairwise_cons, List.forall_mem_cons]
    refine ⟨⟨?_, ?_, ?_, List.forall_mem_nil _⟩, ⟨?_, ?_, List.forall_mem_nil _⟩,
      ⟨?_, List.forall_mem_nil _⟩, List.forall_mem_nil _, .nil⟩
    · exact overlaps_eq_false_of_liesIn hleftLabel hrightLabel hcolumns
    · exact upperPart_apart_lowerPart ..
    · exact overlaps_eq_false_of_liesIn hleftLabel hrightText hcolumns
    · exact overlaps_eq_false_of_liesIn hrightLabel hleftText hcolumns'
    · exact upperPart_apart_lowerPart ..
    · exact overlaps_eq_false_of_liesIn hleftText hrightText hcolumns
  | _ => exact List.pairwise_singleton ..

end Layout

/-- Two boxes of one width side by side in another one, the first at its left edge and the second at
its right edge. -/
structure Box.AreColumns (b left right : Box ℚ) : Prop where
  width : left.w = right.w
  start : left.x = b.x
  stop : right.x + right.w = b.x + b.w
  top : left.y = b.y ∧ right.y = b.y

/-- The box goes on where a label of the same width ends, as far as the lower edge. -/
structure Box.StandsUnder (b label body : Box ℚ) : Prop where
  left : body.x = label.x
  width : body.w = label.w
  start : body.y = label.y + label.h
  stop : body.y + body.h = b.y + b.h

def Box.region {α : Type} (b : Box α) : Region α :=
  ⟨.inches b.x, .inches b.y, .inches b.w, .inches b.h⟩

namespace Layout

open Box

/-- How the boxes of a layout stand in its bounds. -/
def Arranges (l : Layout) (b : Box ℚ) (boxes : List (Box ℚ)) : Prop :=
  match l with
  | twoContent =>
    ∃ left right, boxes = [left, right] ∧ AreColumns b left right ∧ left.h = b.h ∧ right.h = b.h
  | comparison =>
    ∃ before after left right, boxes = [before, after, left, right] ∧
      AreColumns b before after ∧ StandsUnder b before left ∧ StandsUnder b after right
  | _ => boxes = [b]

theorem areColumns (b : Box ℚ) : AreColumns b (leftColumn b) (rightColumn b) where
  width := rfl
  start := rfl
  stop := by
    have hwidth := columns_width b
    change b.x + columnWidth b + gutter b + columnWidth b = b.x + b.w
    linarith
  top := ⟨rfl, rfl⟩

theorem areColumns_upperPart (h : ℚ) {b left right : Box ℚ} (hc : AreColumns b left right) :
    AreColumns b (upperPart h left) (upperPart h right) :=
  ⟨hc.width, hc.start, hc.stop, hc.top⟩

theorem standsUnder_upperPart (h : ℚ) {b z : Box ℚ} (hy : z.y = b.y) (hh : z.h = b.h) :
    StandsUnder b (upperPart h z) (lowerPart h z) where
  left := rfl
  width := rfl
  start := rfl
  stop := by
    change z.y + h + (z.h - h) = b.y + b.h
    linarith

theorem drafts_arranges (l : Layout) (content : String) (b : Box ℚ) :
    l.Arranges b ((l.drafts content b).map Draft.box) := by
  cases l with
  | twoContent => exact ⟨leftColumn b, rightColumn b, rfl, areColumns b, rfl, rfl⟩
  | comparison =>
    exact ⟨_, _, _, _, rfl, areColumns_upperPart _ (areColumns b),
      standsUnder_upperPart _ rfl rfl, standsUnder_upperPart _ rfl rfl⟩
  | _ => rfl

theorem ofOption_word (l : Layout) : ofOption (some l.word) = l := by
  cases l <;> decide

/-- Whatever names the layout, a word that is known or not or none at all, its regions take boxes of
some width and height that lie inside the bounds and do not overlap, arranged as the layout has
it. -/
theorem regions_divide_bounds (b : Bounds ℚ) (content : String) :
    (∀ l : Layout, ofOption (some l.word) = l) ∧
      ∀ value : Option String, ∃ rs boxes, (ofOption value).regions content b = .ok rs ∧
        rs.map TextRegion.region = boxes.map Box.region ∧
        (∀ z ∈ boxes, (0 < z.w ∧ 0 < z.h) ∧ z.LiesIn b.box) ∧
        (boxes.Pairwise fun y z => y.overlaps z = false) ∧
        (ofOption value).Arranges b.box boxes := by
  refine ⟨ofOption_word, fun value => ?_⟩
  obtain ⟨hw, hh⟩ := b.box_pos
  have hadmitted := drafts_isAdmitted (ofOption value) content hw hh
  refine ⟨_, ((ofOption value).drafts content b.box).map Draft.box,
    regions_eq_ok.2 ⟨hadmitted, rfl⟩, ?_, ?_, drafts_apart hw hh _ content,
    drafts_arranges _ content b.box⟩
  · rw [List.map_map, List.map_map]
    rfl
  · refine List.forall_mem_map.2 fun d hd => ?_
    exact ⟨(hadmitted d hd).pos, drafts_liesIn hw hh _ content d hd⟩

/-- In small bounds the gutter is a fifth of the width and a label a third of the height. -/
example : (comparison.drafts "a|b" (⟨0, 0, 1, 1⟩ : Box ℚ)).map Draft.box =
    [⟨0, 0, 2 / 5, 1 / 3⟩, ⟨3 / 5, 0, 2 / 5, 1 / 3⟩, ⟨0, 1 / 3, 2 / 5, 2 / 3⟩,
      ⟨3 / 5, 1 / 3, 2 / 5, 2 / 3⟩] := by decide +kernel

end Layout

end DeckPress
