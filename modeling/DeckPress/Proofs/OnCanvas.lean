import DeckPress.Proofs.ExactGeometry
import DeckPress.Proofs.RoomyCanvas
import DeckPress.Proofs.SlideContents
import DeckPress.Proofs.Wishes

/-!
# Drawn boxes lie on the canvas

A drawing has boxes of five origins: decorations, titles, the regions of layouts, the share of an
image, and the regions that a slide asks for. The last ones are moved onto the canvas, all others
lie on it by their own measures, as soon as it is two inches wide and two and a half inches high.
-/
namespace DeckPress

/-- A stretch of some length inside an extent that begins at zero. -/
structure Spans (extent position side : ℚ) : Prop where
  start : 0 ≤ position
  length : 0 < side
  stop : position + side ≤ extent

/-- The box has a width and a height and sticks out on no side. -/
structure Box.LiesOn (c : Canvas ℚ) (b : Box ℚ) : Prop where
  across : Spans c.width b.x b.w
  down : Spans c.height b.y b.h

theorem Box.isAdmitted_of_pos {b : Box ℚ} (hw : 0 < b.w) (hh : 0 < b.h) : b.IsAdmitted where
  x_finite := rfl
  y_finite := rfl
  w_finite := rfl
  h_finite := rfl
  w_pos := Scalar.zero_eq ▸ hw
  h_pos := Scalar.zero_eq ▸ hh

theorem Box.IsAdmitted.pos {b : Box ℚ} (h : b.IsAdmitted) : 0 < b.w ∧ 0 < b.h :=
  ⟨Scalar.zero_eq ▸ h.w_pos, Scalar.zero_eq ▸ h.h_pos⟩

theorem Bounds.box_pos (b : Bounds ℚ) : 0 < b.box.w ∧ 0 < b.box.h :=
  ⟨Scalar.zero_eq ▸ b.w_pos, Scalar.zero_eq ▸ b.h_pos⟩

namespace Canvas

/-- A side is cut to the extent, and then its position is moved onto the extent. -/
theorem spans_fitted {extent side : ℚ} (position : ℚ) (he : 0 < extent) (hs : 0 < side) :
    Spans extent
      (Scalar.least (Scalar.greatest position Scalar.zero) (extent - Scalar.least side extent))
      (Scalar.least side extent) := by
  rw [Scalar.least_eq_min, Scalar.least_eq_min, Scalar.greatest_eq_max, Scalar.zero_eq]
  have hcut : min side extent ≤ extent := min_le_right ..
  have hmoved : min (max position 0) (extent - min side extent) ≤ extent - min side extent :=
    min_le_right ..
  constructor
  · exact le_min (le_max_right ..) (by linarith)
  · exact lt_min hs he
  · linarith

theorem fit_liesOn {c : Canvas ℚ} (hw : 0 < c.width) (hh : 0 < c.height) {b : Box ℚ}
    (hbw : 0 < b.w) (hbh : 0 < b.h) : (c.fit b).LiesOn c :=
  ⟨spans_fitted b.x hw hbw, spans_fitted b.y hh hbh⟩

theorem box_liesOn {c : Canvas ℚ} (hw : 0 < c.width) (hh : 0 < c.height) : c.box.LiesOn c where
  across := ⟨Scalar.zero_eq.ge, hw, by simp [box]⟩
  down := ⟨Scalar.zero_eq.ge, hh, by simp [box]⟩

end Canvas

/-- A size above zero stays above zero on any canvas. -/
theorem Length.onExtent_pos {extent : ℚ} (he : 0 < extent) {l : Length ℚ} (h : l.IsAdmitted true) :
    0 < l.onExtent extent := by
  cases l with
  | inches x => exact Scalar.zero_eq ▸ h.2 rfl
  | percent p =>
    have hvalue : (0 : ℚ) < p.value := Scalar.zero_eq ▸ h rfl
    change 0 < p.value / Scalar.whole 100 * extent
    rw [Scalar.whole_eq]
    positivity

namespace Layout

section Columns

variable {b : Box ℚ}

theorem gutter_le (b : Box ℚ) : gutter b ≤ b.w / 5 := by
  rw [gutter, Scalar.least_eq_min, Scalar.whole_eq]
  exact min_le_right ..

theorem columnWidth_pos (hw : 0 < b.w) : 0 < columnWidth b := by
  have hgutter := gutter_le b
  have hcolumns : 0 < b.w - gutter b := by linarith
  rw [columnWidth, Scalar.whole_eq]
  positivity

theorem labelHeight_pos (hh : 0 < b.h) : 0 < labelHeight b := by
  rw [labelHeight, Scalar.least_eq_min, Scalar.decimal_eq, Scalar.whole_eq]
  positivity

theorem labelHeight_le (b : Box ℚ) : labelHeight b ≤ b.h / 3 := by
  rw [labelHeight, Scalar.least_eq_min, Scalar.whole_eq]
  exact min_le_right ..

/-- Every box of a layout has a width and a height, however small the bounds are. -/
theorem drafts_isAdmitted (l : Layout) (content : String) (hw : 0 < b.w) (hh : 0 < b.h) :
    ∀ d ∈ l.drafts content b, d.box.IsAdmitted := by
  have hcolumn := columnWidth_pos hw
  have hlabel := labelHeight_pos hh
  have hbody : 0 < b.h - labelHeight b := by
    have := labelHeight_le b
    linarith
  cases l with
  | twoContent =>
    rw [drafts, List.forall_mem_cons, List.forall_mem_singleton]
    exact ⟨Box.isAdmitted_of_pos hcolumn hh, Box.isAdmitted_of_pos hcolumn hh⟩
  | comparison =>
    simp only [drafts, List.forall_mem_cons]
    exact ⟨Box.isAdmitted_of_pos hcolumn hlabel, Box.isAdmitted_of_pos hcolumn hlabel,
      Box.isAdmitted_of_pos hcolumn hbody, Box.isAdmitted_of_pos hcolumn hbody,
      List.forall_mem_nil _⟩
  | _ => exact List.forall_mem_singleton.2 (Box.isAdmitted_of_pos hw hh)

end Columns

end Layout

/-- Wide and high enough for a slide of any kind. -/
structure Canvas.IsRoomy (c : Canvas ℚ) : Prop where
  width : 2 ≤ c.width
  height : 5 / 2 ≤ c.height

namespace Compiler

section Measures

theorem margin_eq : (margin : ℚ) = 1 / 2 := by norm_num [margin, Scalar.decimal_eq]

theorem titleTop_eq : (titleTop : ℚ) = 2 / 5 := by norm_num [titleTop, Scalar.decimal_eq]

theorem titleHeight_eq : (titleHeight : ℚ) = 1 := by norm_num [titleHeight]

theorem bodyTop_eq : (bodyTop : ℚ) = 8 / 5 := by norm_num [bodyTop, Scalar.decimal_eq]

theorem barHeight_eq : (barHeight : ℚ) = 1 / 4 := by norm_num [barHeight, Scalar.decimal_eq]

theorem lineWidth_eq : (lineWidth : ℚ) = 3 / 2 := by norm_num [lineWidth, Scalar.decimal_eq]

theorem lineHeight_eq : (lineHeight : ℚ) = 3 / 50 := by norm_num [lineHeight, Scalar.decimal_eq]

theorem imageShare_eq : (imageShare : ℚ) = 2 / 5 := by norm_num [imageShare, Scalar.decimal_eq]

theorem imageGap_eq : (imageGap : ℚ) = 3 / 10 := by norm_num [imageGap, Scalar.decimal_eq]

theorem titleOnlyHeight_eq : (titleOnlyHeight : ℚ) = 5 / 2 := by
  norm_num [titleOnlyHeight, Scalar.decimal_eq]

end Measures

section Boxes

theorem bodyBox_eq (c : Canvas ℚ) :
    bodyBox c = ⟨1 / 2, 8 / 5, c.width - 1, c.height - 47 / 20⟩ := by
  rw [bodyBox, margin_eq, bodyTop_eq, barHeight_eq, Scalar.whole_eq]
  congr 1 <;> push_cast <;> ring

theorem middleBox_eq (c : Canvas ℚ) :
    middleBox c = ⟨1 / 2, (c.height - 5 / 2) / 2, c.width - 1, 5 / 2⟩ := by
  rw [middleBox, margin_eq, titleOnlyHeight_eq, Scalar.whole_eq]
  congr 1
  push_cast
  ring

theorem titleDraft_box (c : Canvas ℚ) (title : String) :
    (titleDraft c title).box = ⟨1 / 2, 2 / 5, c.width - 1, 1⟩ := by
  change (⟨margin, titleTop, c.width - Scalar.whole 2 * margin, titleHeight⟩ : Box ℚ) = _
  rw [margin_eq, titleTop_eq, titleHeight_eq, Scalar.whole_eq]
  congr 1
  push_cast
  ring

theorem besideImage_bodyBox (c : Canvas ℚ) :
    besideImage (bodyBox c) =
      ⟨1 / 2, 8 / 5, (c.width - 1) * (3 / 5) - 3 / 10, c.height - 47 / 20⟩ := by
  rw [besideImage, bodyBox_eq, imageShare_eq, imageGap_eq]
  congr 1
  ring

theorem imageBox_bodyBox (c : Canvas ℚ) :
    imageBox (bodyBox c) =
      ⟨1 / 2 + (c.width - 1) * (3 / 5), 8 / 5, (c.width - 1) * (2 / 5), c.height - 47 / 20⟩ := by
  rw [imageBox, Box.right, bodyBox_eq, imageShare_eq]
  congr 1
  ring

end Boxes

variable {c : Canvas ℚ} (hc : c.IsRoomy)
include hc

theorem contentBox_pos (hasImage : Bool) :
    0 < (contentBox c hasImage).w ∧ 0 < (contentBox c hasImage).h := by
  have hwidth := hc.width
  have hheight := hc.height
  cases hasImage with
  | false =>
    change 0 < (bodyBox c).w ∧ 0 < (bodyBox c).h
    rw [bodyBox_eq]
    constructor <;> dsimp only <;> linarith
  | true =>
    change 0 < (besideImage (bodyBox c)).w ∧ 0 < (besideImage (bodyBox c)).h
    rw [besideImage_bodyBox]
    constructor <;> dsimp only <;> linarith

theorem middleBox_pos : 0 < (middleBox c).w ∧ 0 < (middleBox c).h := by
  have hwidth := hc.width
  rw [middleBox_eq]
  constructor <;> dsimp only <;> linarith

theorem titleDraft_pos (title : String) :
    0 < (titleDraft c title).box.w ∧ 0 < (titleDraft c title).box.h := by
  have hwidth := hc.width
  rw [titleDraft_box]
  constructor <;> dsimp only <;> linarith

theorem hasRoom_of_isRoomy : HasRoom c where
  body := Box.isAdmitted_of_pos (contentBox_pos hc false).1 (contentBox_pos hc false).2
  middle := Box.isAdmitted_of_pos (middleBox_pos hc).1 (middleBox_pos hc).2
  beside := Box.isAdmitted_of_pos (contentBox_pos hc true).1 (contentBox_pos hc true).2
  title := Box.isAdmitted_of_pos (titleDraft_pos hc "").1 (titleDraft_pos hc "").2
  lone := Layout.drafts_isAdmitted .titleOnly "" (middleBox_pos hc).1 (middleBox_pos hc).2
  content := fun l hasImage =>
    Layout.drafts_isAdmitted l "" (contentBox_pos hc hasImage).1 (contentBox_pos hc hasImage).2

/-- A decoration lies on the canvas by its measures alone. -/
theorem decorationBox_liesOn (titled : Bool) (d : Decoration) :
    (decorationBox c titled d).LiesOn c := by
  have hwidth := hc.width
  have hheight := hc.height
  cases d with
  | headerBar =>
    rw [decorationBox, barHeight_eq, Scalar.zero_eq]
    constructor <;> constructor <;> dsimp only <;> linarith
  | footerBar =>
    rw [decorationBox, barHeight_eq, Scalar.zero_eq]
    constructor <;> constructor <;> dsimp only <;> linarith
  | accentLine =>
    rw [decorationBox, margin_eq, titleTop_eq, titleHeight_eq, lineWidth_eq, lineHeight_eq,
      Scalar.decimal_eq, Scalar.whole_eq]
    cases titled with
    | false => constructor <;> constructor <;> norm_num <;> linarith
    | true => constructor <;> constructor <;> norm_num <;> linarith

theorem imageBox_liesOn : (imageBox (bodyBox c)).LiesOn c := by
  have hwidth := hc.width
  have hheight := hc.height
  rw [imageBox_bodyBox]
  constructor <;> constructor <;> dsimp only <;> linarith

theorem regionBox_liesOn {r : Region ℚ} (h : r.IsAdmitted) : (regionBox c r).LiesOn c := by
  have hwidth : 0 < c.width := by linarith [hc.width]
  have hheight : 0 < c.height := by linarith [hc.height]
  exact Canvas.fit_liesOn hwidth hheight (Length.onExtent_pos hwidth h.w)
    (Length.onExtent_pos hheight h.h)

end Compiler

namespace Drawing

/-- The box that an instruction draws into; a background has none. -/
def Instruction.box? {α : Type} : Instruction α → Option (Box α)
  | background _ => none
  | shape s => some s.box
  | picture p => some p.box
  | text t => some t.box

/-- Every instruction that has a box has it on the canvas. -/
def Instruction.LiesOn (c : Canvas ℚ) (i : Instruction ℚ) : Prop :=
  ∀ b, i.box? = some b → b.LiesOn c

end Drawing

namespace Compiler

variable {c : Canvas ℚ}

theorem framed_liesOn {boxes : List (Box ℚ)} (h : ∀ b ∈ boxes, b.LiesOn c)
    (refs : List Image.Reference) : ∀ p ∈ List.zipWith framed boxes refs, p.box.LiesOn c := by
  induction boxes generalizing refs with
  | nil => exact List.forall_mem_nil _
  | cons b bs ih =>
    obtain ⟨hb, hbs⟩ := List.forall_mem_cons.1 h
    cases refs with
    | nil => exact List.forall_mem_nil _
    | cons r rs => exact List.forall_mem_cons.2 ⟨hb, ih hbs rs⟩

section Roomy

variable (hc : c.IsRoomy)
include hc

theorem stack_liesOn (t : Theme) (titled : Bool) {ps : List (Drawing.Picture ℚ)}
    {ts : List (Drawing.Text ℚ)}
    (hps : ∀ p ∈ ps, p.box.LiesOn c) (hts : ∀ x ∈ ts, x.box.LiesOn c) :
    ∀ i ∈ stack c t titled ps ts, i.LiesOn c := by
  have hground : ∀ i ∈ ground c t titled, i.LiesOn c := by
    rw [ground, List.forall_mem_cons, List.forall_mem_singleton]
    constructor
    · intro b hb
      cases hb
    · rintro _ ⟨⟩
      exact decorationBox_liesOn hc titled t.decoration
  rw [stack, List.forall_mem_append, List.forall_mem_append, List.forall_mem_map,
    List.forall_mem_map]
  refine ⟨hground, fun p hp => ?_, fun x hx => ?_⟩
  · rintro _ ⟨⟩
    exact hps p hp
  · rintro _ ⟨⟩
    exact hts x hx

theorem drawText_liesOn {rs : List (TextRegion ℚ)} (h : ∀ r ∈ rs, r.region.IsAdmitted)
    (t : Theme) (images : List (Box ℚ)) (v : VerticalAlign) :
    ∀ x ∈ rs.map (drawText c t images v), x.box.LiesOn c :=
  List.forall_mem_map.2 fun r hr => regionBox_liesOn hc (h r hr)

theorem assembleGeneric_liesOn (p : Palette) (index total : ℕ) {objects : List (SlideObject ℚ)}
    (h : ∀ r ∈ (Slide.generic objects).regions, r.IsAdmitted) (refs : List Image.Reference) :
    ∀ i ∈ assembleGeneric c p index total objects refs, i.LiesOn c := by
  have hobjects : ∀ x ∈ objects, x.region.IsAdmitted := List.forall_mem_map.1 h
  rw [assembleGeneric_eq]
  refine stack_liesOn hc _ false (framed_liesOn ?_ refs) ?_
  · refine List.forall_mem_map.2 fun r hr => ?_
    obtain ⟨x, hx, himage⟩ := List.mem_filterMap.1 hr
    cases x with
    | text _ => cases himage
    | image _ =>
      cases himage
      exact regionBox_liesOn hc (hobjects _ hx)
  · refine List.forall_mem_map.2 fun r hr => ?_
    obtain ⟨x, hx, htext⟩ := List.mem_filterMap.1 hr
    cases x with
    | text _ =>
      cases htext
      exact regionBox_liesOn (r := (escaped r).region) hc (hobjects _ hx)
    | image _ => cases htext

theorem image_liesOn {s : TemplatedSlide} {ps : Parts ℚ} (h : parts c s = .ok ps) :
    ∀ b ∈ ps.image.toList, b.LiesOn c := by
  have hbox : c.box.LiesOn c :=
    Canvas.box_liesOn (by linarith [hc.width]) (by linarith [hc.height])
  have hbody := imageBox_liesOn hc
  by_cases hl : Layout.ofOption s.layout = .titleOnly
  · obtain ⟨-, -, -, himage, -⟩ := parts_of_titleOnly hl h
    rw [himage]
    cases s.imageQuery with
    | none => exact List.forall_mem_nil _
    | some q => exact List.forall_mem_singleton.2 hbox
  · obtain ⟨-, -, -, himage, -⟩ := parts_of_titled hl h
    rw [himage]
    cases s.imageQuery with
    | none => exact List.forall_mem_nil _
    | some q => exact List.forall_mem_singleton.2 hbody

theorem assembleTemplated_liesOn {p : Palette} {index total : ℕ} {s : TemplatedSlide}
    {refs : List Image.Reference} {is : List (Drawing.Instruction ℚ)}
    (h : assembleTemplated c p index total s refs = .ok is) : ∀ i ∈ is, i.LiesOn c := by
  obtain ⟨ps, hps, rfl⟩ := assembleTemplated_eq_ok.1 h
  obtain ⟨htitles, hcontent⟩ := (hasRoom_of_isRoomy hc).parts_isAdmitted hps
  refine stack_liesOn hc _ true (framed_liesOn (image_liesOn hc hps) refs) ?_
  rw [List.forall_mem_append]
  exact ⟨drawText_liesOn hc htitles _ _ _, drawText_liesOn hc hcontent _ _ _⟩

theorem assemble_liesOn {p : Palette} {index total : ℕ} {s : Slide ℚ}
    (hs : ∀ r ∈ s.regions, r.IsAdmitted) {refs : List Image.Reference}
    {is : List (Drawing.Instruction ℚ)} (h : assemble c p index total s refs = .ok is) :
    ∀ i ∈ is, i.LiesOn c := by
  cases s with
  | generic objects =>
    cases h
    exact assembleGeneric_liesOn hc p index total hs refs
  | templated s => exact assembleTemplated_liesOn hc h

end Roomy

/-- On a canvas of at least two by two and a half inches the compiler refuses none of the boxes that
it makes itself, and all that it draws of a deck whose regions are admitted lies on the canvas. -/
theorem every_box_lies_on_canvas {σ : Type} (c : Compiler ℚ σ) (hwidth : 2 ≤ c.canvas.width)
    (hheight : 5 / 2 ≤ c.canvas.height) :
    c.Assembles ∧
      ∀ (d : Deck ℚ) (t t' : σ),
        (∀ r, (c.compile d).outcome t ≠ (.error (.refused r), t')) ∧
        ∀ g, d.HasAdmittedRegions → (c.compile d).outcome t = (.ok g, t') →
          g.canvas = c.canvas ∧ ∀ s ∈ g.slides, ∀ i ∈ s.instructions, ∀ b, i.box? = some b →
            (0 ≤ b.x ∧ 0 ≤ b.y) ∧ (0 < b.w ∧ 0 < b.h) ∧
              b.x + b.w ≤ g.canvas.width ∧ b.y + b.h ≤ g.canvas.height := by
  have hc : c.canvas.IsRoomy := ⟨hwidth, hheight⟩
  have hassembles : c.Assembles := (hasRoom_of_isRoomy hc).assembles
  refine ⟨hassembles, fun d t t' => ⟨fun r => hassembles.not_refused d r t t', ?_⟩⟩
  intro g hregions hg
  have hcanvas : g.canvas = c.canvas := (compile_eq_ok.1 hg).2.1
  refine ⟨hcanvas, fun s hs i hi b hb => ?_⟩
  obtain ⟨⟨source, index⟩, hsource, u, u', hslide⟩ :=
    exists_of_forall₂_right (compile_forall₂ hg) hs
  have hadmitted := hregions source (List.fst_mem_of_mem_zipIdx hsource)
  obtain ⟨refs, -, his, -⟩ := compileSlide_eq_ok.1 hslide
  have hbox : b.LiesOn c.canvas := assemble_liesOn hc hadmitted his i hi b hb
  rw [hcanvas]
  exact ⟨⟨hbox.across.start, hbox.down.start⟩, ⟨hbox.across.length, hbox.down.length⟩,
    hbox.across.stop, hbox.down.stop⟩

/-- A deck read from data: regions that are too large, beyond the canvas and given in percent, and
slides of several layouts with images. -/
def unruly : Json :=
  .arr [
    .obj [("objects", .arr [
      .obj [("type", .str "text"), ("text", .str "far"), ("x", .int (-3)), ("y", .str "250%"),
        ("w", .int 1000), ("h", .str "40%")],
      .obj [("type", .str "image"), ("urlOrQuery", .str "a lake"), ("x", .int 7), ("y", .int (-1)),
        ("w", .str "150%"), ("h", .int 3)]])],
    .obj [("title", .str "Two"), ("content", .str "left|right"), ("layout", .str "comparison"),
      ("imageQuery", .str "a river")],
    .obj [("title", .str "One"), ("layout", .str "titleOnly"), ("imageQuery", .str "a hill")],
    .obj [("title", .str "Last")]]

def smallestRoomy : Compiler ℚ Unit where
  canvas := ⟨2, 5 / 2⟩

theorem every_box_lies_on_canvas_unruly :
    ∃ d g t', Deck.parse unruly = .ok d ∧
      (smallestRoomy.compile d.exact).outcome () = (.ok g, t') ∧ g.slides.length = 4 ∧
      ∀ s ∈ g.slides, ∀ i ∈ s.instructions, ∀ b, i.box? = some b →
        (0 ≤ b.x ∧ 0 ≤ b.y) ∧ (0 < b.w ∧ 0 < b.h) ∧
          b.x + b.w ≤ g.canvas.width ∧ b.y + b.h ≤ g.canvas.height := by
  have hparse : ((Deck.parse unruly).toOption.any fun d => decide (d.slides.length = 4)) = true := by
    decide +kernel
  obtain ⟨d, hd, hdec⟩ := exists_eq_ok_of_any hparse
  have hlength : d.exact.slides.length = 4 := by
    rw [Deck.exact, List.length_map]
    exact of_decide_eq_true hdec
  have hne : d.exact.slides ≠ [] := List.ne_nil_of_length_eq_add_one hlength
  obtain ⟨hassembles, hdecks⟩ := every_box_lies_on_canvas smallestRoomy (le_refl 2) (le_refl (5 / 2))
  have hlenient : smallestRoomy.IsLenient := ⟨rfl, fun _ h => by cases h⟩
  obtain ⟨g, t', hg⟩ := compile_returns hlenient hassembles hne ()
  obtain ⟨-, hboxes⟩ := hdecks d.exact () t'
  obtain ⟨-, hlies⟩ := hboxes g (Deck.exact_hasAdmittedRegions hd) hg
  exact ⟨d, g, t', hd, hg, (length_compile hg).trans hlength, hlies⟩

end Compiler

end DeckPress
