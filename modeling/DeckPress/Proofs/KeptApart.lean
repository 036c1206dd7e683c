import DeckPress.Proofs.DividedBounds
import DeckPress.Proofs.NearestPlaces
import DeckPress.Proofs.SlideLayers

/-!
# The parts of a templated slide are kept apart

On a slide with a title the decoration, the title, the content and the image each have a zone of
their own, so nothing is drawn over anything else. A text without a title stands in the middle,
clear of every decoration if the canvas is high enough, and lies on the image if there is one.
-/
namespace DeckPress

namespace Drawing

variable {α : Type}

def Instruction.shape? : Instruction α → Option (Shape α)
  | shape s => some s
  | _ => none

def Slide.shapes (s : Slide α) : List (Shape α) := s.instructions.filterMap Instruction.shape?

def Slide.boxes (s : Slide α) : List (Box α) := s.instructions.filterMap Instruction.box?

theorem filterMap_shape_pictures (ps : List (Picture α)) :
    (ps.map Instruction.picture).filterMap Instruction.shape? = [] := by
  simp [List.filterMap_map, Function.comp_def, Instruction.shape?]

theorem filterMap_shape_texts (ts : List (Text α)) :
    (ts.map Instruction.text).filterMap Instruction.shape? = [] := by
  simp [List.filterMap_map, Function.comp_def, Instruction.shape?]

theorem filterMap_box_pictures (ps : List (Picture α)) :
    (ps.map Instruction.picture).filterMap Instruction.box? = ps.map Picture.box := by
  rw [List.filterMap_map]
  exact List.filterMap_eq_map ▸ rfl

theorem filterMap_box_texts (ts : List (Text α)) :
    (ts.map Instruction.text).filterMap Instruction.box? = ts.map Text.box := by
  rw [List.filterMap_map]
  exact List.filterMap_eq_map ▸ rfl

theorem Slide.IsStack.boxes {s : Slide α} (h : s.IsStack) :
    ∃ b, s.boxes = b :: (s.pictures.map Picture.box ++ s.texts.map Text.box) := by
  obtain ⟨color, shape, his⟩ := h
  refine ⟨shape.box, ?_⟩
  rw [Slide.boxes, his]
  simp only [List.filterMap_cons, Instruction.box?, List.filterMap_append, filterMap_box_pictures,
    filterMap_box_texts]

end Drawing

namespace Compiler

open Attempt Box

section Stack

variable {α : Type} [Scalar α] (i : Int) (c : Canvas α) (t : Theme) (titled : Bool)
  (ps : List (Drawing.Picture α)) (ts : List (Drawing.Text α))

theorem boxes_stack :
    (⟨i, stack c t titled ps ts⟩ : Drawing.Slide α).boxes =
      decorationBox c titled t.decoration ::
        (ps.map Drawing.Picture.box ++ ts.map Drawing.Text.box) := by
  simp only [Drawing.Slide.boxes, stack, ground, List.cons_append, List.nil_append,
    List.filterMap_cons, Drawing.Instruction.box?, List.filterMap_append,
    Drawing.filterMap_box_pictures, Drawing.filterMap_box_texts]

theorem shapes_stack :
    (⟨i, stack c t titled ps ts⟩ : Drawing.Slide α).shapes =
      [⟨t.decoration, decorationBox c titled t.decoration, t.accent⟩] := by
  simp only [Drawing.Slide.shapes, stack, ground, List.cons_append, List.nil_append,
    List.filterMap_cons, Drawing.Instruction.shape?, List.filterMap_append,
    Drawing.filterMap_shape_pictures, Drawing.filterMap_shape_texts, List.append_nil]

end Stack

section Zones

variable (c : Canvas ℚ)

/-- On a slide with a title the decoration stands above the body or below it. -/
theorem decorationBox_apart_body (d : Decoration) :
    (decorationBox c true d).overlaps (bodyBox c) = false := by
  rw [bodyBox_eq, overlaps_eq_false_iff]
  cases d with
  | headerBar =>
    rw [decorationBox, barHeight_eq, Scalar.zero_eq]
    norm_num
  | footerBar =>
    rw [decorationBox, barHeight_eq]
    right
    left
    dsimp only
    linarith
  | accentLine =>
    rw [decorationBox, if_pos rfl, titleTop_eq, titleHeight_eq, lineHeight_eq, Scalar.decimal_eq]
    norm_num

theorem imageBox_apart :
    (imageBox (bodyBox c)).overlaps (contentBox c true) = false := by
  change (imageBox (bodyBox c)).overlaps (besideImage (bodyBox c)) = false
  rw [imageBox_bodyBox, besideImage_bodyBox, overlaps_eq_false_iff]
  left
  left
  dsimp only
  linarith

theorem titleDraft_apart (title : String) :
    (titleDraft c title).box.overlaps (bodyBox c) = false := by
  rw [titleDraft_box, bodyBox_eq, overlaps_eq_false_iff]
  norm_num

end Zones

section Roomy

variable {c : Canvas ℚ} (hc : c.IsRoomy)
include hc

theorem contentBox_liesOn (hasImage : Bool) : (contentBox c hasImage).LiesOn c := by
  have hwidth := hc.width
  have hheight := hc.height
  cases hasImage with
  | false =>
    change (bodyBox c).LiesOn c
    rw [bodyBox_eq]
    constructor <;> constructor <;> dsimp only <;> linarith
  | true =>
    change (besideImage (bodyBox c)).LiesOn c
    rw [besideImage_bodyBox]
    constructor <;> constructor <;> dsimp only <;> linarith

theorem titleDraft_liesOn (title : String) : (titleDraft c title).box.LiesOn c := by
  have hwidth := hc.width
  have hheight := hc.height
  rw [titleDraft_box]
  constructor <;> constructor <;> dsimp only <;> linarith

/-- On a slide with a title the decoration stands above the title or below it. -/
theorem decorationBox_apart_title (d : Decoration) (title : String) :
    (decorationBox c true d).overlaps (titleDraft c title).box = false := by
  have hheight := hc.height
  rw [titleDraft_box, overlaps_eq_false_iff]
  cases d with
  | headerBar =>
    rw [decorationBox, barHeight_eq, Scalar.zero_eq]
    norm_num
  | footerBar =>
    rw [decorationBox, barHeight_eq]
    right
    left
    dsimp only
    linarith
  | accentLine =>
    rw [decorationBox, if_pos rfl, titleTop_eq, titleHeight_eq, Scalar.decimal_eq]
    norm_num

/-- The content of a slide and its image share the body, and the image is on the right. -/
theorem contentBox_liesIn (hasImage : Bool) : (contentBox c hasImage).LiesIn (bodyBox c) := by
  have hwidth := hc.width
  cases hasImage with
  | false => exact LiesIn.refl _
  | true =>
    change (besideImage (bodyBox c)).LiesIn (bodyBox c)
    rw [besideImage_bodyBox, bodyBox_eq]
    constructor <;> dsimp only <;> linarith

theorem imageBox_liesIn : (imageBox (bodyBox c)).LiesIn (bodyBox c) := by
  have hwidth := hc.width
  rw [imageBox_bodyBox, bodyBox_eq]
  constructor <;> dsimp only <;> linarith

def titledBoxes (c : Canvas ℚ) (d : Decoration) (s : TemplatedSlide) : List (Box ℚ) :=
  decorationBox c true d ::
    (s.imageQuery.toList.map (fun _ => imageBox (bodyBox c)) ++
      (titleDraft c s.title).box ::
        ((Layout.ofOption s.layout).drafts s.content
          (contentBox c s.imageQuery.isSome)).map Draft.box)

theorem titledBoxes_apart (d : Decoration) (s : TemplatedSlide) :
    (titledBoxes c d s).Pairwise fun a b => a.overlaps b = false := by
  obtain ⟨hw, hh⟩ := contentBox_pos hc s.imageQuery.isSome
  have hdrafts := Layout.drafts_liesIn hw hh (Layout.ofOption s.layout) s.content
  have hcontent := contentBox_liesIn hc s.imageQuery.isSome
  have hbody := decorationBox_apart_body c d
  rw [titledBoxes, List.pairwise_cons, List.pairwise_append, List.pairwise_cons,
    List.forall_mem_append, List.forall_mem_cons]
  refine ⟨⟨?_, ?_, ?_⟩, ?_, ⟨?_, ?_⟩, ?_⟩
  · -- the decoration and the image
    refine List.forall_mem_map.2 fun _ _ => ?_
    exact overlaps_eq_false_of_liesIn (LiesIn.refl _) (imageBox_liesIn hc) hbody
  · exact decorationBox_apart_title hc d s.title
  · -- the decoration and the content
    refine List.forall_mem_map.2 fun x hx => ?_
    exact overlaps_eq_false_of_liesIn (LiesIn.refl _) ((hdrafts x hx).trans hcontent) hbody
  · cases s.imageQuery with
    | none => exact .nil
    | some q => exact List.pairwise_singleton ..
  · -- the title and the content
    refine List.forall_mem_map.2 fun x hx => ?_
    exact overlaps_eq_false_of_liesIn (LiesIn.refl _) ((hdrafts x hx).trans hcontent)
      (titleDraft_apart c s.title)
  · exact Layout.drafts_apart hw hh _ _
  · -- the image with the title and with the content beside it
    refine List.forall_mem_map.2 fun q hq => List.forall_mem_cons.2 ⟨?_, ?_⟩
    · rw [overlaps_comm]
      exact overlaps_eq_false_of_liesIn (LiesIn.refl _) (imageBox_liesIn hc)
        (titleDraft_apart c s.title)
    · rw [Option.mem_toList.1 hq] at hdrafts ⊢
      refine List.forall_mem_map.2 fun x hx => ?_
      exact overlaps_eq_false_of_liesIn (LiesIn.refl _) (hdrafts x hx) (imageBox_apart c)

/-- The boxes of a layout lie on the canvas by their measures alone. -/
theorem content_liesOn (l : Layout) (content : String) (hasImage : Bool) :
    ∀ d ∈ l.drafts content (contentBox c hasImage), d.box.LiesOn c := by
  obtain ⟨hw, hh⟩ := contentBox_pos hc hasImage
  intro d hd
  obtain ⟨hw', hh'⟩ := (Layout.drafts_isAdmitted l content hw hh d hd).pos
  have hinside := Layout.drafts_liesIn hw hh l content d hd
  exact hinside.liesOn (contentBox_liesOn hc hasImage) hw' hh'

omit hc in
/-- Texts are drawn in the boxes of a layout that lie on the canvas. -/
theorem map_box_drawText {ds : List (Draft ℚ)} (h : ∀ d ∈ ds, d.box.LiesOn c) (t : Theme)
    (images : List (Box ℚ)) (v : VerticalAlign) :
    ((ds.map Draft.placed).map (drawText c t images v)).map Drawing.Text.box =
      ds.map Draft.box := by
  rw [List.map_map, List.map_map]
  exact List.map_congr_left fun d hd => Canvas.fit_eq_self (h d hd)

theorem boxes_titled {p : Palette} {index total : ℕ} {s : TemplatedSlide}
    {refs : List Image.Reference} {is : List (Drawing.Instruction ℚ)}
    (hl : Layout.ofOption s.layout ≠ .titleOnly)
    (hrefs : refs.length = if s.imageQuery.isSome then 1 else 0)
    (h : assembleTemplated c p index total s refs = .ok is) :
    (⟨index, is⟩ : Drawing.Slide ℚ).boxes =
      titledBoxes c (p.theme index total s.imageQuery.isSome).decoration s := by
  obtain ⟨ps, hps, rfl⟩ := assembleTemplated_eq_ok.1 h
  obtain ⟨b, hb, hcontent, himage, htitles, -⟩ := parts_of_titled hl hps
  obtain ⟨-, hcontent⟩ := Layout.regions_eq_ok.1 hcontent
  have hpictures := map_box_framed ((length_image hps).trans hrefs.symm)
  have htitles' : ps.titles = [titleDraft c s.title].map Draft.placed := htitles
  have htitle : ∀ d ∈ [titleDraft c s.title], d.box.LiesOn c :=
    List.forall_mem_singleton.2 (titleDraft_liesOn hc s.title)
  have hdrafts := hb ▸ content_liesOn hc (Layout.ofOption s.layout) s.content s.imageQuery.isSome
  rw [boxes_stack, hpictures, List.map_append, htitles', hcontent, map_box_drawText htitle,
    map_box_drawText hdrafts, himage, hb, Option.toList_map]
  rfl

omit hc in
theorem length_titledBoxes (d : Decoration) (s : TemplatedSlide) :
    (titledBoxes c d s).length = 2 + s.imageQuery.toList.length +
      ((Layout.ofOption s.layout).placedTexts s.content).length := by
  have htexts := congrArg List.length (Layout.drafts_text (Layout.ofOption s.layout) s.content
    (contentBox c s.imageQuery.isSome))
  rw [List.length_map] at htexts
  simp only [titledBoxes, List.length_cons, List.length_append, List.length_map, htexts]
  omega

omit hc in
theorem boxes_titleOnly {p : Palette} {index total : ℕ} {s : TemplatedSlide}
    {refs : List Image.Reference} {is : List (Drawing.Instruction ℚ)}
    (hl : Layout.ofOption s.layout = .titleOnly)
    (hrefs : refs.length = if s.imageQuery.isSome then 1 else 0)
    (h : assembleTemplated c p index total s refs = .ok is) :
    let out : Drawing.Slide ℚ := ⟨index, is⟩
    ∃ shape x, out.shapes = [shape] ∧ out.texts = [x] ∧
      shape.box = decorationBox c true shape.kind ∧ x.box = c.fit (middleBox c) ∧
      out.pictures.map Drawing.Picture.box = s.imageQuery.toList.map fun _ => c.box := by
  obtain ⟨ps, hps, rfl⟩ := assembleTemplated_eq_ok.1 h
  obtain ⟨b, hb, hcontent, himage, htitles, -⟩ := parts_of_titleOnly hl hps
  obtain ⟨-, hcontent⟩ := Layout.regions_eq_ok.1 hcontent
  have hpictures := map_box_framed ((length_image hps).trans hrefs.symm)
  let t := p.theme index total s.imageQuery.isSome
  let d : Draft ℚ := ⟨loneText s, b.box, Layout.titleOnlySize, true, .center⟩
  refine ⟨_, drawText c t ps.image.toList ps.valign d.placed, shapes_stack .., ?_, rfl, ?_, ?_⟩
  · rw [texts_stack, htitles, hcontent]
    rfl
  · rw [← hb]
    rfl
  · rw [pictures_stack, hpictures, himage, Option.toList_map]

theorem middleBox_liesOn : (middleBox c).LiesOn c := by
  have hwidth := hc.width
  have hheight := hc.height
  rw [middleBox_eq]
  constructor <;> constructor <;> dsimp only <;> linarith

omit hc in
/-- On a canvas that is high enough the middle begins below the line under a title. -/
theorem middleBox_apart (hheight : 138 / 25 ≤ c.height) (d : Decoration) :
    (middleBox c).overlaps (decorationBox c true d) = false := by
  rw [middleBox_eq, overlaps_eq_false_iff]
  right
  cases d with
  | headerBar =>
    rw [decorationBox, barHeight_eq, Scalar.zero_eq]
    left
    dsimp only
    linarith
  | footerBar =>
    rw [decorationBox, barHeight_eq]
    right
    dsimp only
    linarith
  | accentLine =>
    rw [decorationBox, if_pos rfl, titleTop_eq, titleHeight_eq, lineHeight_eq, Scalar.decimal_eq]
    left
    norm_num
    linarith

omit hc in
theorem overlaps_canvas {b : Box ℚ} (h : b.LiesOn c) : b.overlaps c.box = true := by
  have hx := h.across.start
  have hw := h.across.length
  have hright := h.across.stop
  have hy := h.down.start
  have hh := h.down.length
  have hbottom := h.down.stop
  rw [overlaps_iff, Canvas.box, Scalar.zero_eq]
  dsimp only
  refine ⟨⟨?_, ?_⟩, ?_, ?_⟩ <;> linarith

end Roomy

section Compiled

variable {σ : Type} {k : Compiler ℚ σ} {topic : Option String} {total index : ℕ} {t t' : σ}
  {out : Drawing.Slide ℚ}

theorem backdrop_of_compileSlide {s : Slide ℚ}
    (h : (k.compileSlide topic total index s).outcome t = (.ok out, t')) :
    ∀ x ∈ out.texts, (x.backdrop.isSome ↔ ∃ p ∈ out.pictures, x.box.overlaps p.box = true) := by
  obtain ⟨l, refs, hlength, rfl⟩ := compileSlide_layers h
  obtain ⟨_, -, hbackdrops⟩ := l.backdrops k.canvas k.palette index total hlength
  exact fun x hx => (hbackdrops x hx).1

theorem assembleTemplated_of_compileSlide {s : TemplatedSlide}
    (h : (k.compileSlide topic total index (.templated s)).outcome t = (.ok out, t')) :
    ∃ refs : List Image.Reference, (refs.length = if s.imageQuery.isSome then 1 else 0) ∧
      assembleTemplated k.canvas k.palette index total s refs = .ok out.instructions ∧
      out = ⟨index, out.instructions⟩ := by
  obtain ⟨refs, hrefs, his, hindex⟩ := compileSlide_eq_ok.1 h
  obtain ⟨_, is⟩ := out
  cases hindex
  have hlength := hrefs.forall₂.length_eq.symm
  rw [Slide.needs, length_templatedNeeds] at hlength
  exact ⟨refs, hlength, his, rfl⟩

/-- On a slide with a title no two boxes overlap, and no text needs a backdrop. -/
theorem titled_apart (hk : k.canvas.IsRoomy) {s : TemplatedSlide}
    (hl : Layout.ofOption s.layout ≠ .titleOnly)
    (h : (k.compileSlide topic total index (.templated s)).outcome t = (.ok out, t')) :
    (out.boxes.length = 2 + s.imageQuery.toList.length +
        ((Layout.ofOption s.layout).placedTexts s.content).length ∧
      out.boxes.Pairwise fun a b => a.overlaps b = false) ∧
    ∀ x ∈ out.texts, x.backdrop = none := by
  obtain ⟨refs, hrefs, his, hout⟩ := assembleTemplated_of_compileSlide h
  have hboxes := boxes_titled hk hl hrefs his
  rw [← hout] at hboxes
  have hapart : out.boxes.Pairwise fun a b => a.overlaps b = false := by
    rw [hboxes]
    exact titledBoxes_apart hk _ s
  refine ⟨⟨by rw [hboxes, length_titledBoxes], hapart⟩, fun x hx => ?_⟩
  obtain ⟨-, hstack, -⟩ := compileSlide_draws h
  obtain ⟨b, hb⟩ := hstack.boxes
  rw [hb, List.pairwise_cons, List.pairwise_append] at hapart
  obtain ⟨-, -, -, hpictures⟩ := hapart
  rw [← Option.not_isSome_iff_eq_none, backdrop_of_compileSlide h x hx]
  rintro ⟨p, hp, hoverlaps⟩
  have hxp := hpictures p.box (List.mem_map_of_mem hp) x.box (List.mem_map_of_mem hx)
  rw [overlaps_comm, hoverlaps] at hxp
  cases hxp

/-- The only text of a slide stands clear of the decoration, and on the image if there is one. -/
theorem titleOnly_apart (hwidth : 2 ≤ k.canvas.width) (hheight : 138 / 25 ≤ k.canvas.height)
    {s : TemplatedSlide} (hl : Layout.ofOption s.layout = .titleOnly)
    (h : (k.compileSlide topic total index (.templated s)).outcome t = (.ok out, t')) :
    ∃ shape x, out.shapes = [shape] ∧ out.texts = [x] ∧ x.box.overlaps shape.box = false ∧
      (x.backdrop.isSome ↔ s.imageQuery.isSome) := by
  have hk : k.canvas.IsRoomy := ⟨hwidth, by linarith⟩
  obtain ⟨refs, hrefs, his, hout⟩ := assembleTemplated_of_compileSlide h
  have hlone := boxes_titleOnly hl hrefs his
  rw [← hout] at hlone
  obtain ⟨shape, x, hshapes, htexts, hshape, hbox, hpictures⟩ := hlone
  have hmiddle := middleBox_liesOn hk
  rw [Canvas.fit_eq_self hmiddle] at hbox
  have hx : x ∈ out.texts := by rw [htexts]; exact List.mem_singleton_self x
  refine ⟨shape, x, hshapes, htexts, ?_, ?_⟩
  · rw [hbox, hshape]
    exact middleBox_apart hheight shape.kind
  · have hcanvas := overlaps_canvas hmiddle
    rw [backdrop_of_compileSlide h x hx, hbox]
    cases hquery : s.imageQuery with
    | none =>
      rw [hquery, Option.toList_none, List.map_nil, List.map_eq_nil_iff] at hpictures
      simp [hpictures]
    | some q =>
      rw [hquery, Option.toList_some, List.map_singleton, List.map_eq_singleton_iff] at hpictures
      obtain ⟨p, hp, hpbox⟩ := hpictures
      simp [hp, hpbox, hcanvas]

end Compiled

/-- On a canvas of at least 2 by 5.52 inches every deck is compiled, and a templated slide never
draws over itself. With a title, its decoration, its image, the title and all regions of its layout
are apart, and no text has a backdrop. A lone text is clear of the decoration, and has a backdrop if
and only if the slide has an image. -/
theorem templated_slides_are_kept_apart {σ : Type} (c : Compiler ℚ σ)
    (hwidth : 2 ≤ c.canvas.width) (hheight : 138 / 25 ≤ c.canvas.height) :
    (c.IsLenient → ∀ d : Deck ℚ, d.slides ≠ [] → (c.compile d).Returns) ∧
      ∀ (d : Deck ℚ) (t t' : σ) (g : Drawing ℚ), (c.compile d).outcome t = (.ok g, t') →
        ∀ (i : ℕ) (s : TemplatedSlide) (out : Drawing.Slide ℚ),
          d.slides[i]? = some (.templated s) → g.slides[i]? = some out →
            (Layout.ofOption s.layout ≠ .titleOnly →
              (out.boxes.length = 2 + s.imageQuery.toList.length +
                  ((Layout.ofOption s.layout).placedTexts s.content).length ∧
                out.boxes.Pairwise fun a b => a.overlaps b = false) ∧
              ∀ x ∈ out.texts, x.backdrop = none) ∧
            (Layout.ofOption s.layout = .titleOnly →
              ∃ shape x, out.shapes = [shape] ∧ out.texts = [x] ∧
                x.box.overlaps shape.box = false ∧ (x.backdrop.isSome ↔ s.imageQuery.isSome)) := by
  have hc : c.canvas.IsRoomy := ⟨hwidth, by linarith⟩
  refine ⟨fun hlenient d hd => ?_, fun d t t' g hg i s out hs hout => ?_⟩
  · exact compile_returns hlenient (hasRoom_of_isRoomy hc).assembles hd
  · obtain ⟨u, u', hslide⟩ := forall₂_zipIdx_getElem? (compile_forall₂ hg) hs hout
    exact ⟨fun hl => titled_apart hc hl hslide,
      fun hl => titleOnly_apart hwidth hheight hl hslide⟩

/-- Slides of three layouts with images, at all three places of the decoration. -/
def crowdedDeck : Deck ℚ where
  slides :=
    [.templated ⟨"One", "left|right", some "comparison", some "a lake"⟩,
      .templated ⟨"Two", "below", some "titleOnly", some "a hill"⟩,
      .templated ⟨"Three", "last", none, some "a river"⟩]
  topic := none

/-- A canvas on which the lone text just clears the line. -/
def lowestCompiler : Compiler ℚ Unit where
  canvas := ⟨2, 138 / 25⟩

theorem kept_apart_crowdedDeck :
    (2 ≤ lowestCompiler.canvas.width ∧ 138 / 25 ≤ lowestCompiler.canvas.height) ∧
      ∃ g t', (lowestCompiler.compile crowdedDeck).outcome () = (.ok g, t') ∧
        (∀ out, g.slides[0]? = some out →
          (out.boxes.length = 7 ∧ out.boxes.Pairwise fun a b => a.overlaps b = false) ∧
            ∀ x ∈ out.texts, x.backdrop = none) ∧
        ∀ out, g.slides[1]? = some out →
          ∃ shape x, out.shapes = [shape] ∧ out.texts = [x] ∧
            x.box.overlaps shape.box = false ∧ x.backdrop.isSome := by
  have hapart := templated_slides_are_kept_apart lowestCompiler le_rfl le_rfl
  have hlenient : lowestCompiler.IsLenient := ⟨rfl, fun _ h => by cases h⟩
  obtain ⟨g, t', hg⟩ := hapart.1 hlenient crowdedDeck (List.cons_ne_nil _ _) ()
  have hslides := hapart.2 crowdedDeck () t' g hg
  refine ⟨⟨le_rfl, le_rfl⟩, g, t', hg, fun out hout => ?_, fun out hout => ?_⟩
  · exact (hslides 0 _ out rfl hout).1 (by decide)
  · obtain ⟨shape, x, hshapes, htexts, hclear, hbackdrop⟩ :=
      (hslides 1 _ out rfl hout).2 (by decide)
    exact ⟨shape, x, hshapes, htexts, hclear, hbackdrop.2 rfl⟩

end Compiler

end DeckPress
