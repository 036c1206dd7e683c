import DeckPress.Proofs.SlideContents

/-!
# The layers of a compiled slide

Slides of both kinds are put together alike: a background, a decoration, pictures in some boxes, and
texts that were drawn with just these boxes in mind. The colors are those of the theme for a slide
that has an image if and only if there is a box for one. So a text has a backdrop exactly where it
lies on a picture that is drawn, and the backdrop is the background of the slide.
-/
namespace DeckPress

namespace Drawing

variable {α : Type}

def Instruction.background? : Instruction α → Option String
  | background color => some color
  | _ => none

def Slide.backgrounds (s : Slide α) : List String :=
  s.instructions.filterMap Instruction.background?

theorem filterMap_background_pictures (ps : List (Picture α)) :
    (ps.map Instruction.picture).filterMap Instruction.background? = [] := by
  simp [List.filterMap_map, Function.comp_def, Instruction.background?]

theorem filterMap_background_texts (ts : List (Text α)) :
    (ts.map Instruction.text).filterMap Instruction.background? = [] := by
  simp [List.filterMap_map, Function.comp_def, Instruction.background?]

end Drawing

namespace Compiler

open Attempt

variable {α σ : Type}

theorem map_box_framed {boxes : List (Box α)} {refs : List Image.Reference}
    (hl : boxes.length = refs.length) :
    (List.zipWith framed boxes refs).map Drawing.Picture.box = boxes := by
  have h := forall₂_box_framed hl
  simpa using (forall₂_eq_iff_map_eq (f := id).1 (h.imp fun _ _ hbox => hbox.symm)).symm

variable [Scalar α]

theorem backgrounds_stack (i : Int) (c : Canvas α) (t : Theme) (titled : Bool)
    (ps : List (Drawing.Picture α)) (ts : List (Drawing.Text α)) :
    (⟨i, stack c t titled ps ts⟩ : Drawing.Slide α).backgrounds = [t.background] := by
  simp only [Drawing.Slide.backgrounds, stack, ground, List.cons_append, List.nil_append,
    List.filterMap_cons, Drawing.Instruction.background?, List.filterMap_append,
    Drawing.filterMap_background_pictures, Drawing.filterMap_background_texts]

/-- What a slide is put together from, whatever its kind: boxes for its images, and regions for its
texts with the way in which each stands in its box. -/
structure Layers (α : Type) where
  titled : Bool
  boxes : List (Box α)
  texts : List (VerticalAlign × TextRegion α)

namespace Layers

/-- The theme that the slide has at a position. -/
def theme (l : Layers α) (p : Palette) (index total : Nat) : Theme :=
  p.theme index total !l.boxes.isEmpty

/-- The instructions of the slide at a position, with these images in its boxes. -/
def drawn (l : Layers α) (c : Canvas α) (p : Palette) (index total : Nat)
    (refs : List Image.Reference) : List (Drawing.Instruction α) :=
  let t := l.theme p index total
  stack c t l.titled (List.zipWith framed l.boxes refs)
    (l.texts.map fun r => drawText c t l.boxes r.1 r.2)

end Layers

theorem isEmpty_image {c : Canvas α} {s : TemplatedSlide} {ps : Parts α}
    (h : parts c s = .ok ps) : (!ps.image.toList.isEmpty) = s.imageQuery.isSome := by
  have hlength := length_image h
  cases hquery : s.imageQuery with
  | none =>
    rw [hquery] at hlength
    rw [List.length_eq_zero_iff.1 hlength]
    rfl
  | some q =>
    rw [hquery] at hlength
    obtain ⟨b, hb⟩ := List.length_eq_one_iff.1 hlength
    rw [hb]
    rfl

/-- A slide that is assembled has layers, and these do not depend on how many slides there are. -/
theorem exists_layers {c : Canvas α} {p : Palette} {index total : Nat} {s : Slide α}
    {refs : List Image.Reference} {is : List (Drawing.Instruction α)}
    (h : assemble c p index total s refs = .ok is) :
    ∃ l : Layers α, (∀ topic, l.boxes.length = (s.needs topic).length) ∧
      ∀ n, assemble c p index n s refs = .ok (l.drawn c p index n refs) := by
  cases s with
  | generic objects =>
    let texts := (objects.filterMap SlideObject.text?).map fun r => (VerticalAlign.top, escaped r)
    refine ⟨⟨false, objectBoxes c objects, texts⟩, fun topic => ?_, fun n => ?_⟩
    · rw [objectBoxes, List.length_map, Slide.needs, length_objectNeeds]
    · rw [assemble, assembleGeneric_eq, Layers.drawn, List.map_map]
      rfl
  | templated s =>
    obtain ⟨ps, hps, -⟩ := assembleTemplated_eq_ok.1 h
    let texts := ps.titles.map (VerticalAlign.top, ·) ++ ps.content.map (ps.valign, ·)
    refine ⟨⟨true, ps.image.toList, texts⟩, fun topic => ?_, fun n => ?_⟩
    · rw [Slide.needs, length_templatedNeeds, length_image hps]
    · refine assembleTemplated_eq_ok.2 ⟨ps, hps, ?_⟩
      rw [Layers.drawn, Layers.theme, isEmpty_image hps, List.map_append, List.map_map,
        List.map_map]
      rfl

theorem compileSlide_layers {c : Compiler α σ} {topic : Option String} {total index : Nat}
    {s : Slide α} {t t' : σ} {out : Drawing.Slide α}
    (h : (c.compileSlide topic total index s).outcome t = (.ok out, t')) :
    ∃ (l : Layers α) (refs : List Image.Reference), l.boxes.length = refs.length ∧
      out = ⟨index, l.drawn c.canvas c.palette index total refs⟩ := by
  obtain ⟨refs, hrefs, his, hindex⟩ := compileSlide_eq_ok.1 h
  obtain ⟨l, hboxes, hdrawn⟩ := exists_layers his
  have hlength : l.boxes.length = refs.length := by rw [hboxes topic, hrefs.forall₂.length_eq]
  obtain ⟨_, is⟩ := out
  cases hindex
  cases (hdrawn total).symm.trans his
  exact ⟨l, refs, hlength, rfl⟩

theorem compile_layers {c : Compiler α σ} {d : Deck α} {t t' : σ} {g : Drawing α}
    (h : (c.compile d).outcome t = (.ok g, t')) {s : Drawing.Slide α} (hs : s ∈ g.slides) :
    ∃ (index : Nat) (l : Layers α) (refs : List Image.Reference), l.boxes.length = refs.length ∧
      s = ⟨index, l.drawn c.canvas c.palette index d.slides.length refs⟩ := by
  obtain ⟨⟨_, index⟩, -, _, _, hslide⟩ := exists_of_forall₂_right (compile_forall₂ h) hs
  exact ⟨index, compileSlide_layers hslide⟩

section Backdrop

variable (c : Canvas α) (t : Theme) (images : List (Box α)) (v : VerticalAlign) (r : TextRegion α)

/-- The boxes that are asked about may be those of pictures. -/
theorem isSome_backdrop_drawText {ps : List (Drawing.Picture α)}
    (hps : ps.map Drawing.Picture.box = images) :
    (drawText c t images v r).backdrop.isSome ↔
      ∃ p ∈ ps, (drawText c t images v r).box.overlaps p.box = true := by
  change (if images.any (regionBox c r.region).overlaps then some t.background else none).isSome ↔
    ∃ p ∈ ps, (regionBox c r.region).overlaps p.box = true
  rw [← hps, List.any_map, ← List.any_eq_true]
  split
  · next h => exact iff_of_true rfl h
  · next h => exact iff_of_false Bool.false_ne_true h

theorem eq_background_of_backdrop_drawText {color : String}
    (h : (drawText c t images v r).backdrop = some color) : color = t.background := by
  change (if images.any (regionBox c r.region).overlaps then some t.background else none) = _ at h
  split at h
  · exact (Option.some.inj h).symm
  · cases h

end Backdrop

theorem Layers.backdrops (l : Layers α) (c : Canvas α) (p : Palette) (index total : Nat)
    {refs : List Image.Reference} (hlength : l.boxes.length = refs.length) :
    let s : Drawing.Slide α := ⟨index, l.drawn c p index total refs⟩
    ∃ color, s.backgrounds = [color] ∧ ∀ x ∈ s.texts,
      (x.backdrop.isSome ↔ ∃ p ∈ s.pictures, x.box.overlaps p.box = true) ∧
        ∀ b, x.backdrop = some b → b = color := by
  intro s
  have hbackgrounds : s.backgrounds = [(l.theme p index total).background] := backgrounds_stack ..
  have hpictures : s.pictures = List.zipWith framed l.boxes refs := pictures_stack ..
  have htexts : s.texts = l.texts.map fun r =>
      drawText c (l.theme p index total) l.boxes r.1 r.2 := texts_stack ..
  refine ⟨_, hbackgrounds, ?_⟩
  rw [htexts, hpictures, List.forall_mem_map]
  intro r _
  constructor
  · exact isSome_backdrop_drawText _ _ _ _ _ (map_box_framed hlength)
  · intro b hb
    exact eq_background_of_backdrop_drawText _ _ _ _ _ hb

/-- A drawn text has a backdrop if and only if its box overlaps that of a picture on its slide, and
then the backdrop has the color that the slide is filled with. -/
theorem backdrop_iff_on_picture {c : Compiler α σ} {d : Deck α} {t t' : σ} {g : Drawing α}
    (h : (c.compile d).outcome t = (.ok g, t')) :
    ∀ s ∈ g.slides, ∃ color, s.backgrounds = [color] ∧ ∀ x ∈ s.texts,
      (x.backdrop.isSome ↔ ∃ p ∈ s.pictures, x.box.overlaps p.box = true) ∧
        ∀ b, x.backdrop = some b → b = color := by
  intro s hs
  obtain ⟨index, l, refs, hlength, rfl⟩ := compile_layers h hs
  exact l.backdrops c.canvas c.palette index d.slides.length hlength

/-- A picture on the left with a text across its edge and one beside it, and a slide with a lone
text on a picture. -/
def overlaidDeck : Deck Float where
  slides :=
    let column (x w : Nat) : Region Float :=
      ⟨.inches (Scalar.whole x), .inches (Scalar.whole 1), .inches (Scalar.whole w),
        .inches (Scalar.whole 2)⟩
    [.generic
      [.text ⟨column 3 4, "across", 18, false, .left⟩, .image ⟨column 0 4, "a lake"⟩,
        .text ⟨column 4 4, "beside", 18, false, .left⟩],
      .templated ⟨"Alone", "", some "titleOnly", some "a hill"⟩]
  topic := none

theorem backdrop_iff_on_picture_overlaidDeck :
    ∃ g t', (plainCompiler.compile overlaidDeck).outcome () = (.ok g, t') ∧
      (g.slides.map fun s => s.texts.map Drawing.Text.backdrop) =
        [[some "F2F2F2", none], [some "F7F3E9"]] ∧
      ∀ s ∈ g.slides, ∃ color, s.backgrounds = [color] ∧ ∀ x ∈ s.texts,
        (x.backdrop.isSome ↔ ∃ p ∈ s.pictures, x.box.overlaps p.box = true) ∧
          ∀ b, x.backdrop = some b → b = color := by
  have hcolors : ((plainCompiler.compile overlaidDeck).outcome ()).1.toOption.any (fun g =>
      (g.slides.map fun s => s.texts.map Drawing.Text.backdrop) ==
        [[some "F2F2F2", none], [some "F7F3E9"]]) = true := by decide +kernel
  obtain ⟨g, t', hg, hbackdrops⟩ := exists_of_any hcolors
  exact ⟨g, t', hg, eq_of_beq hbackdrops, backdrop_iff_on_picture hg⟩

end Compiler

end DeckPress
