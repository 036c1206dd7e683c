import DeckPress.Layout
import DeckPress.Proofs.Attempt

/-!
# The regions of a layout

Which boxes a layout asks for does not depend on the texts that it places, and whether it succeeds
depends on these boxes alone. When it does, every draft becomes a region of its own, in order, with
its text escaped once.
-/
namespace DeckPress

variable {α : Type} [Scalar α]

namespace Length

theorem checkInches_eq_ok {positive : Bool} {x : α} {l : Length α} :
    checkInches positive x = .ok l ↔
      Scalar.nonFinite? x = none ∧ (positive = true → Scalar.zero < x) ∧ l = .inches x := by
  unfold checkInches
  cases hx : Scalar.nonFinite? x with
  | some n => simp
  | none =>
    by_cases hp : positive = true ∧ ¬Scalar.zero < x
    · simp [hp.1, hp.2]
    · have hz : positive = true → Scalar.zero < x := fun h =>
        Classical.not_not.1 fun hn => hp ⟨h, hn⟩
      cases positive <;> simp_all [eq_comm]

end Length

/-- The box is finite and has a width and a height. -/
structure Box.IsAdmitted (b : Box α) : Prop where
  x_finite : Scalar.nonFinite? b.x = none
  y_finite : Scalar.nonFinite? b.y = none
  w_finite : Scalar.nonFinite? b.w = none
  h_finite : Scalar.nonFinite? b.h = none
  w_pos : Scalar.zero < b.w
  h_pos : Scalar.zero < b.h

theorem Box.isAdmitted_iff (b : Box α) :
    b.IsAdmitted ↔ (Scalar.nonFinite? b.x = none ∧ Scalar.nonFinite? b.y = none ∧
      Scalar.nonFinite? b.w = none ∧ Scalar.nonFinite? b.h = none) ∧
      Scalar.zero < b.w ∧ Scalar.zero < b.h :=
  ⟨fun h => ⟨⟨h.x_finite, h.y_finite, h.w_finite, h.h_finite⟩, h.w_pos, h.h_pos⟩,
    fun ⟨⟨hx, hy, hw, hh⟩, hw', hh'⟩ => ⟨hx, hy, hw, hh, hw', hh'⟩⟩

instance (b : Box α) : Decidable b.IsAdmitted := decidable_of_iff' _ b.isAdmitted_iff

theorem Bounds.ofBox_eq_ok {b : Box α} {r : Bounds α} :
    ofBox b = .ok r ↔ Scalar.zero < b.w ∧ Scalar.zero < b.h ∧ r.box = b := by
  unfold ofBox
  split
  · next hw =>
    split
    · next hh =>
      simp only [Except.ok.injEq, hw, hh, true_and]
      constructor
      · rintro rfl
        rfl
      · rintro rfl
        rfl
    · next hh => simp [hh]
  · next hw => simp [hw]

namespace Draft

def placed (d : Draft α) : TextRegion α :=
  ⟨⟨.inches d.box.x, .inches d.box.y, .inches d.box.w, .inches d.box.h⟩, Text.sanitize d.text,
    d.fontSize, d.bold, d.align⟩

/-- A draft gets its region if its box is admitted, and only then. -/
theorem region_eq_ok {d : Draft α} {r : TextRegion α} :
    d.region = .ok r ↔ d.box.IsAdmitted ∧ r = d.placed := by
  unfold region
  constructor
  · intro h
    dsimp only at h
    split at h
    · next x y w h' hx hy hw hh =>
      obtain ⟨x_finite, -, rfl⟩ := Length.checkInches_eq_ok.1 hx
      obtain ⟨y_finite, -, rfl⟩ := Length.checkInches_eq_ok.1 hy
      obtain ⟨w_finite, w_pos, rfl⟩ := Length.checkInches_eq_ok.1 hw
      obtain ⟨h_finite, h_pos, rfl⟩ := Length.checkInches_eq_ok.1 hh
      cases h
      exact ⟨⟨x_finite, y_finite, w_finite, h_finite, w_pos rfl, h_pos rfl⟩, rfl⟩
    · cases h
  · rintro ⟨ha, rfl⟩
    have hx : Length.checkInches false d.box.x = .ok (.inches d.box.x) :=
      Length.checkInches_eq_ok.2 ⟨ha.x_finite, by simp, rfl⟩
    have hy : Length.checkInches false d.box.y = .ok (.inches d.box.y) :=
      Length.checkInches_eq_ok.2 ⟨ha.y_finite, by simp, rfl⟩
    have hw : Length.checkInches true d.box.w = .ok (.inches d.box.w) :=
      Length.checkInches_eq_ok.2 ⟨ha.w_finite, fun _ => ha.w_pos, rfl⟩
    have hh : Length.checkInches true d.box.h = .ok (.inches d.box.h) :=
      Length.checkInches_eq_ok.2 ⟨ha.h_finite, fun _ => ha.h_pos, rfl⟩
    simp only [hx, hy, hw, hh, placed]

theorem mapM_region_eq_ok {ds : List (Draft α)} {rs : List (TextRegion α)} :
    ds.mapM region = .ok rs ↔ (∀ d ∈ ds, d.box.IsAdmitted) ∧ rs = ds.map placed := by
  have h : List.Forall₂ (fun d r => r = placed d) ds rs ↔ rs = ds.map placed := by
    rw [eq_comm, ← List.forall₂_eq_eq_eq, List.forall₂_map_left_iff]
    exact ⟨fun h => h.imp fun _ _ => Eq.symm, fun h => h.imp fun _ _ => Eq.symm⟩
  simp only [mapM_eq_ok, region_eq_ok, List.forall₂_and_left, h]

end Draft

namespace Layout

/-- The texts that a layout places, as they are written in the slide. -/
def placedTexts (l : Layout) (content : String) : List String :=
  match l with
  | twoContent => [(splitPair content).1, (splitPair content).2]
  | comparison => ["Before", "After", (splitPair content).1, (splitPair content).2]
  | _ => [content]

theorem drafts_text (l : Layout) (content : String) (b : Box α) :
    (l.drafts content b).map Draft.text = l.placedTexts content := by
  cases l <;> simp only [drafts, placedTexts, List.map]

/-- The boxes do not depend on the texts. -/
theorem drafts_box (l : Layout) (content other : String) (b : Box α) :
    (l.drafts content b).map Draft.box = (l.drafts other b).map Draft.box := by
  cases l <;> simp only [drafts, List.map]

theorem regions_eq_ok {l : Layout} {content : String} {b : Bounds α} {rs : List (TextRegion α)} :
    l.regions content b = .ok rs ↔
      (∀ d ∈ l.drafts content b.box, d.box.IsAdmitted) ∧
        rs = (l.drafts content b.box).map Draft.placed :=
  Draft.mapM_region_eq_ok

theorem regions_text {l : Layout} {content : String} {b : Bounds α} {rs : List (TextRegion α)}
    (h : l.regions content b = .ok rs) :
    rs.map TextRegion.text = (l.placedTexts content).map Text.sanitize := by
  obtain ⟨-, rfl⟩ := regions_eq_ok.1 h
  rw [← drafts_text l content b.box]
  simp [Draft.placed]

end Layout

end DeckPress
