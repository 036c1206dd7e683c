import DeckPress.Proofs.AcceptedDecks
import DeckPress.Proofs.Compilation

/-!
# Canvases with room for templated slides

A templated slide is put together from few boxes, and these do not depend on what it says: they
alone decide whether it is. On a canvas on which all of them are admitted no slide fails to be
assembled, and every text of a templated slide is placed in an admitted region.
-/
namespace DeckPress

variable {α : Type} [Scalar α]

theorem Draft.placed_isAdmitted {d : Draft α} (h : d.box.IsAdmitted) :
    d.placed.region.IsAdmitted where
  x := ⟨h.x_finite, nofun⟩
  y := ⟨h.y_finite, nofun⟩
  w := ⟨h.w_finite, fun _ => h.w_pos⟩
  h := ⟨h.h_finite, fun _ => h.h_pos⟩

theorem Layout.regions_isAdmitted {l : Layout} {content : String} {b : Bounds α}
    {rs : List (TextRegion α)} (h : l.regions content b = .ok rs) :
    ∀ r ∈ rs, r.region.IsAdmitted := by
  obtain ⟨hdrafts, rfl⟩ := Layout.regions_eq_ok.1 h
  exact List.forall_mem_map.2 fun d hd => Draft.placed_isAdmitted (hdrafts d hd)

namespace Compiler

/-- A box that bounds are made of. -/
def IsOpen (b : Box α) : Prop := Scalar.zero < b.w ∧ Scalar.zero < b.h

theorem exists_ofBox_iff {b : Box α} : (∃ r, Bounds.ofBox b = .ok r) ↔ IsOpen b := by
  simp only [Bounds.ofBox_eq_ok]
  constructor
  · rintro ⟨_, hw, hh, -⟩
    exact ⟨hw, hh⟩
  · rintro ⟨hw, hh⟩
    exact ⟨⟨b, hw, hh⟩, hw, hh, rfl⟩

/-- A layout succeeds for a text if and only if all its boxes are admitted, which do not depend on
the text. -/
theorem exists_regions_iff {l : Layout} (content : String) {b : Bounds α} :
    (∃ rs, l.regions content b = .ok rs) ↔ ∀ d ∈ l.drafts "" b.box, d.box.IsAdmitted := by
  have hboxes (text : String) : (∀ d ∈ l.drafts text b.box, d.box.IsAdmitted) ↔
      ∀ x ∈ (l.drafts text b.box).map Draft.box, x.IsAdmitted := List.forall_mem_map.symm
  simp only [Layout.regions_eq_ok]
  rw [hboxes "", ← Layout.drafts_box l content, ← hboxes content]
  constructor
  · rintro ⟨_, h, -⟩
    exact h
  · exact fun h => ⟨_, h, rfl⟩

theorem exists_parts_of_titleOnly {c : Canvas α} {s : TemplatedSlide}
    (hl : Layout.ofOption s.layout = .titleOnly) :
    (∃ ps, parts c s = .ok ps) ↔ IsOpen (bodyBox c) ∧ IsOpen (middleBox c) ∧
      ∀ d ∈ Layout.titleOnly.drafts "" (middleBox c), d.box.IsAdmitted := by
  simp only [parts, titleOnlyParts, hl, bind_eq_ok, pure_eq_ok]
  constructor
  · rintro ⟨_, body, hbody, b, hb, rs, hrs, -⟩
    have hbox := (Bounds.ofBox_eq_ok.1 hb).2.2
    exact ⟨exists_ofBox_iff.1 ⟨body, hbody⟩, exists_ofBox_iff.1 ⟨b, hb⟩,
      hbox ▸ (exists_regions_iff (loneText s)).1 ⟨rs, hrs⟩⟩
  · rintro ⟨hbody, hmiddle, hdrafts⟩
    obtain ⟨body, hbody⟩ := exists_ofBox_iff.2 hbody
    obtain ⟨b, hb⟩ := exists_ofBox_iff.2 hmiddle
    have hbox := (Bounds.ofBox_eq_ok.1 hb).2.2
    obtain ⟨rs, hrs⟩ := (exists_regions_iff (b := b) (loneText s)).2 (hbox ▸ hdrafts)
    exact ⟨_, body, hbody, b, hb, rs, hrs, rfl⟩

theorem exists_contentBounds_iff {body : Bounds α} {c : Canvas α} (hbody : body.box = bodyBox c)
    (hasImage : Bool) :
    (∃ b, contentBounds body hasImage = .ok b) ↔ IsOpen (contentBox c hasImage) := by
  cases hasImage with
  | false =>
    have hopen : IsOpen body.box := ⟨body.w_pos, body.h_pos⟩
    rw [hbody] at hopen
    exact iff_of_true ⟨body, rfl⟩ hopen
  | true =>
    rw [contentBounds, if_pos rfl, hbody]
    exact exists_ofBox_iff

theorem exists_parts_of_titled {c : Canvas α} {s : TemplatedSlide}
    (hl : Layout.ofOption s.layout ≠ .titleOnly) :
    (∃ ps, parts c s = .ok ps) ↔ IsOpen (bodyBox c) ∧ IsOpen (contentBox c s.imageQuery.isSome) ∧
      (titleDraft c "").box.IsAdmitted ∧
      ∀ d ∈ (Layout.ofOption s.layout).drafts "" (contentBox c s.imageQuery.isSome),
        d.box.IsAdmitted := by
  simp only [parts, titledParts, bind_eq_ok, pure_eq_ok]
  constructor
  · rintro ⟨_, body, hbody, h⟩
    obtain ⟨b, hb, r, hr, rs, hrs, -⟩ := h
    have hbox := contentBounds_eq_ok hb
    rw [(Bounds.ofBox_eq_ok.1 hbody).2.2] at hbox
    refine ⟨exists_ofBox_iff.1 ⟨body, hbody⟩, ?_, (Draft.region_eq_ok.1 hr).1, ?_⟩
    · exact (exists_contentBounds_iff (Bounds.ofBox_eq_ok.1 hbody).2.2 _).1 ⟨b, hb⟩
    · have := (exists_regions_iff s.content).1 ⟨rs, hrs⟩
      rwa [hbox] at this
  · rintro ⟨hbody, hcontent, htitle, hdrafts⟩
    obtain ⟨body, hbody⟩ := exists_ofBox_iff.2 hbody
    have hbox := (Bounds.ofBox_eq_ok.1 hbody).2.2
    obtain ⟨b, hb⟩ := (exists_contentBounds_iff hbox s.imageQuery.isSome).2 hcontent
    have hbox' := contentBounds_eq_ok hb
    rw [hbox] at hbox'
    have htitle' : (titleDraft c s.title).box.IsAdmitted := htitle
    have hr := Draft.region_eq_ok.2 ⟨htitle', rfl⟩
    obtain ⟨rs, hrs⟩ := (exists_regions_iff (b := b) s.content).2 (by rw [hbox']; exact hdrafts)
    exact ⟨_, body, hbody, b, hb, _, hr, rs, hrs, rfl⟩

/-- Every box that a templated slide is put together from is admitted. -/
structure HasRoom (c : Canvas α) : Prop where
  body : (bodyBox c).IsAdmitted
  middle : (middleBox c).IsAdmitted
  beside : (besideImage (bodyBox c)).IsAdmitted
  title : (titleDraft c "").box.IsAdmitted
  lone : ∀ d ∈ Layout.titleOnly.drafts "" (middleBox c), d.box.IsAdmitted
  content : ∀ (l : Layout) (hasImage : Bool),
    ∀ d ∈ l.drafts "" (contentBox c hasImage), d.box.IsAdmitted

namespace HasRoom

variable {c : Canvas α} (h : HasRoom c)
include h

theorem titleDraft_isAdmitted (title : String) : (titleDraft c title).box.IsAdmitted := h.title

theorem parts_ok (s : TemplatedSlide) : ∃ ps, parts c s = .ok ps := by
  have hbody : IsOpen (bodyBox c) := ⟨h.body.w_pos, h.body.h_pos⟩
  by_cases hl : Layout.ofOption s.layout = .titleOnly
  · exact (exists_parts_of_titleOnly hl).2 ⟨hbody, ⟨h.middle.w_pos, h.middle.h_pos⟩, h.lone⟩
  · have hcontent : IsOpen (contentBox c s.imageQuery.isSome) := by
      cases s.imageQuery.isSome with
      | false => exact hbody
      | true => exact ⟨h.beside.w_pos, h.beside.h_pos⟩
    exact (exists_parts_of_titled hl).2 ⟨hbody, hcontent, h.title, h.content _ _⟩

theorem parts_isAdmitted {s : TemplatedSlide} {ps : Parts α} (hps : parts c s = .ok ps) :
    (∀ r ∈ ps.titles, r.region.IsAdmitted) ∧ ∀ r ∈ ps.content, r.region.IsAdmitted := by
  by_cases hl : Layout.ofOption s.layout = .titleOnly
  · obtain ⟨_, -, hr, -, htitles, -⟩ := parts_of_titleOnly hl hps
    rw [htitles]
    exact ⟨List.forall_mem_nil _, Layout.regions_isAdmitted hr⟩
  · obtain ⟨_, -, hr, -, htitles, -⟩ := parts_of_titled hl hps
    rw [htitles]
    have htitle := Draft.placed_isAdmitted (h.titleDraft_isAdmitted s.title)
    exact ⟨List.forall_mem_singleton.2 htitle, Layout.regions_isAdmitted hr⟩

end HasRoom

theorem HasRoom.assembles {σ : Type} {c : Compiler α σ} (h : HasRoom c.canvas) : c.Assembles := by
  intro index total s refs
  cases s with
  | generic objects => exact ⟨_, rfl⟩
  | templated s =>
    obtain ⟨ps, hps⟩ := h.parts_ok s
    exact ⟨_, assembleTemplated_eq_ok.2 ⟨ps, hps, rfl⟩⟩

end Compiler

end DeckPress
