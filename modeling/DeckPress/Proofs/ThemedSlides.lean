import DeckPress.Proofs.SlideLayers

/-!
# Themes over a whole deck

The slides of a deck take the entries of the palette in turn, from the first one again after the
last. A slide has the colors of its entry, but for a white background that pictures would lie on;
and the slide of a model that asks for images is the one on which pictures are drawn, so that the
theme and the drawing agree on which backgrounds these are. The decoration tells the first slide,
the last one, and those between them apart.
-/
namespace DeckPress

open Attempt

namespace Decoration

variable {index total : Nat}

theorem ofPosition_eq_headerBar : ofPosition index total = headerBar ↔ index = 0 := by
  unfold ofPosition
  split_ifs with hfirst hlast <;> simp [hfirst]

theorem ofPosition_eq_footerBar :
    ofPosition index total = footerBar ↔ 2 ≤ total ∧ index + 1 = total := by
  unfold ofPosition
  split_ifs with hfirst hlast <;> simp <;> omega

theorem ofPosition_eq_accentLine (h : index < total) :
    ofPosition index total = accentLine ↔ 0 < index ∧ index + 1 < total := by
  unfold ofPosition
  split_ifs with hfirst hlast <;> simp <;> omega

end Decoration

namespace Palette

variable (p : Palette) (index : Nat)

theorem getElem?_swatches : p.swatches[index % p.swatches.length]? = some (p.swatch index) :=
  List.getElem?_eq_getElem _

theorem background_eq (hasImage : Bool) : p.background index hasImage =
    if hasImage = true ∧ Text.capitals (p.swatch index).background = white then p.imageSafe
    else (p.swatch index).background := by
  simp [background]

/-- What stands in for white is not white itself, so no background of pictures is. -/
theorem capitals_background_ne_white (h : Text.capitals p.imageSafe ≠ white) :
    Text.capitals (p.background index true) ≠ white := by
  rw [background_eq]
  split_ifs with hwhite
  · exact h
  · exact fun hcapitals => hwhite ⟨rfl, hcapitals⟩

end Palette

namespace Compiler

variable {α σ : Type} [Scalar α]

theorem layers_of_getElem? {c : Compiler α σ} {d : Deck α} {t t' : σ} {g : Drawing α}
    (h : (c.compile d).outcome t = (.ok g, t')) {i : Nat} {s : Drawing.Slide α}
    (hs : g.slides[i]? = some s) :
    i < d.slides.length ∧ ∃ (l : Layers α) (refs : List Image.Reference),
      l.boxes.length = refs.length ∧
        s = ⟨i, l.drawn c.canvas c.palette i d.slides.length refs⟩ := by
  have hi : i < d.slides.length := length_compile h ▸ (List.getElem?_eq_some_iff.1 hs).1
  obtain ⟨_, _, hslide⟩ :=
    forall₂_zipIdx_getElem? (compile_forall₂ h) (List.getElem?_eq_getElem hi) hs
  exact ⟨hi, compileSlide_layers hslide⟩

omit [Scalar α] in
theorem zipWith_framed_eq_nil_iff {boxes : List (Box α)} {refs : List Image.Reference}
    (hlength : boxes.length = refs.length) :
    List.zipWith framed boxes refs = [] ↔ boxes = [] := by
  rw [List.zipWith_eq_nil_iff, ← List.length_eq_zero_iff (l := refs), ← hlength,
    List.length_eq_zero_iff, or_self]

/-- The slide at a position looks as the palette and the position have it. Its entry is the one that
the position comes to when counted round the palette. -/
structure IsThemed (p : Palette) (index total : Nat) (s : Drawing.Slide α) (entry : Swatch)
    (ground : String) (shape : Drawing.Shape α) : Prop where
  entry_eq : p.swatches[index % p.swatches.length]? = some entry
  instructions_eq : s.instructions =
    .background ground :: .shape shape :: (s.pictures.map .picture ++ s.texts.map .text)
  headerBar_iff : shape.kind = .headerBar ↔ index = 0
  footerBar_iff : shape.kind = .footerBar ↔ 2 ≤ total ∧ index + 1 = total
  accentLine_iff : shape.kind = .accentLine ↔ 0 < index ∧ index + 1 < total
  shape_color : shape.color = entry.accent
  text_color : ∀ x ∈ s.texts, x.color = entry.text
  ground_eq : ground =
    if s.pictures ≠ [] ∧ Text.capitals entry.background = Palette.white then p.imageSafe
    else entry.background

theorem Layers.isThemed (l : Layers α) (c : Canvas α) (p : Palette) {index total : Nat}
    (hindex : index < total) {refs : List Image.Reference}
    (hlength : l.boxes.length = refs.length) :
    IsThemed p index total (⟨index, l.drawn c p index total refs⟩ : Drawing.Slide α)
      (p.swatch index) (p.background index !l.boxes.isEmpty)
      ⟨.ofPosition index total, decorationBox c l.titled (.ofPosition index total),
        (p.swatch index).accent⟩ := by
  have hpictures : (⟨index, l.drawn c p index total refs⟩ : Drawing.Slide α).pictures =
      List.zipWith framed l.boxes refs := pictures_stack ..
  have htexts : (⟨index, l.drawn c p index total refs⟩ : Drawing.Slide α).texts =
      l.texts.map fun r => drawText c (l.theme p index total) l.boxes r.1 r.2 := texts_stack ..
  constructor
  case entry_eq => exact p.getElem?_swatches index
  case instructions_eq =>
    rw [hpictures, htexts]
    rfl
  case headerBar_iff => exact Decoration.ofPosition_eq_headerBar
  case footerBar_iff => exact Decoration.ofPosition_eq_footerBar
  case accentLine_iff => exact Decoration.ofPosition_eq_accentLine hindex
  case shape_color => rfl
  case text_color =>
    rw [htexts, List.forall_mem_map]
    exact fun _ _ => rfl
  case ground_eq =>
    have hboxes : (!l.boxes.isEmpty) = true ↔ List.zipWith framed l.boxes refs ≠ [] := by
      rw [ne_eq, zipWith_framed_eq_nil_iff hlength, Bool.not_eq_true', List.isEmpty_eq_false_iff]
    simp only [p.background_eq, hpictures, hboxes]

/-- The theme of a whole deck: each slide takes its colors from the entry of its position, the
first slide has a bar above, the last one of several a bar below, and all others a line; and the
background is that of the entry, unless it is white and pictures lie on it. So if what stands in
for white is not white, no slide with a picture has a white background. -/
theorem compiled_slides_are_themed {c : Compiler α σ} {d : Deck α} {t t' : σ} {g : Drawing α}
    (h : (c.compile d).outcome t = (.ok g, t')) :
    g.slides.length = d.slides.length ∧
      ∀ (i : Nat) (s : Drawing.Slide α), g.slides[i]? = some s →
        ∃ entry ground shape, IsThemed c.palette i d.slides.length s entry ground shape ∧
          (Text.capitals c.palette.imageSafe ≠ Palette.white → s.pictures ≠ [] →
            Text.capitals ground ≠ Palette.white) := by
  refine ⟨length_compile h, fun i s hs => ?_⟩
  obtain ⟨hi, l, refs, hlength, rfl⟩ := layers_of_getElem? h hs
  refine ⟨_, _, _, l.isThemed c.canvas c.palette hi hlength, fun hsafe hpictures => ?_⟩
  rw [Layers.drawn, pictures_stack, ne_eq, zipWith_framed_eq_nil_iff hlength] at hpictures
  rw [show (!l.boxes.isEmpty) = true by simpa using hpictures]
  exact c.palette.capitals_background_ne_white i hsafe

/-- Two entries, the first of them white in small letters. -/
def pairedCompiler : Compiler Float Unit where
  canvas := .standard
  palette := ⟨[⟨"ffffff", "111111", "AA0000"⟩, ⟨"0000FF", "EEEEEE", "00AA00"⟩], "F2F2F2", by simp⟩

/-- Pictures on the first slide and on the second, none on the third and the fourth. -/
def pairedDeck : Deck Float where
  slides :=
    let place : Region Float :=
      ⟨.inches (Scalar.whole 1), .inches (Scalar.whole 1), .inches (Scalar.whole 4),
        .inches (Scalar.whole 2)⟩
    [.templated ⟨"One", "left|right", some "comparison", some ""⟩,
      .generic [.text ⟨place, "two", 18, false, .left⟩, .image ⟨place, "a lake"⟩],
      .generic [.text ⟨place, "three", 18, false, .left⟩],
      .templated ⟨"Four", "", some "titleOnly", none⟩]
  topic := some "lakes"

theorem compiled_slides_are_themed_pairedDeck :
    ∃ g t', (pairedCompiler.compile pairedDeck).outcome () = (.ok g, t') ∧
      g.slides.map Drawing.Slide.backgrounds = [["F2F2F2"], ["0000FF"], ["ffffff"], ["0000FF"]] ∧
      g.slides.length = 4 ∧
        ∀ (i : Nat) (s : Drawing.Slide Float), g.slides[i]? = some s →
          ∃ entry ground shape, IsThemed pairedCompiler.palette i 4 s entry ground shape ∧
            (s.pictures ≠ [] → Text.capitals ground ≠ Palette.white) := by
  have hcolors : ((pairedCompiler.compile pairedDeck).outcome ()).1.toOption.any (fun g =>
      g.slides.map Drawing.Slide.backgrounds ==
        [["F2F2F2"], ["0000FF"], ["ffffff"], ["0000FF"]]) = true := by decide +kernel
  obtain ⟨g, t', hg, hbackgrounds⟩ := exists_of_any hcolors
  obtain ⟨hlength, hthemed⟩ := compiled_slides_are_themed hg
  refine ⟨g, t', hg, eq_of_beq hbackgrounds, hlength, fun i s hs => ?_⟩
  obtain ⟨entry, ground, shape, his, hwhite⟩ := hthemed i s hs
  exact ⟨entry, ground, shape, his, hwhite (by decide)⟩

end Compiler

end DeckPress
