import DeckPress.Proofs.DividedBounds
import DeckPress.Proofs.SlideLayers

/-!
# Shares follow the canvas

A length in percent is the same part of every canvas. So is a box whose lengths are all given in
percent: to cut it to the canvas and to move it onto the canvas takes the same parts of both. A text
that lies on a picture on one canvas lies on it on any other one, and has a backdrop on both.
-/
namespace DeckPress

/-- Lengths across are multiplied by one factor, lengths down by another one. -/
def Box.scaled (a b : ℚ) (z : Box ℚ) : Box ℚ := ⟨a * z.x, b * z.y, a * z.w, b * z.h⟩

def Canvas.scaled (a b : ℚ) (c : Canvas ℚ) : Canvas ℚ := ⟨a * c.width, b * c.height⟩

/-- All lengths of the region are shares. -/
structure Region.IsRelative {α : Type} (r : Region α) : Prop where
  x : r.x.isPercent = true
  y : r.y.isPercent = true
  w : r.w.isPercent = true
  h : r.h.isPercent = true

theorem Length.onExtent_mul {l : Length ℚ} (h : l.isPercent = true) (a extent : ℚ) :
    l.onExtent (a * extent) = a * l.onExtent extent := by
  cases l with
  | inches x => cases h
  | percent p => exact mul_left_comm p.share a extent

section Factors

variable {a b : ℚ}

namespace Scalar

theorem least_mul (ha : 0 < a) (x y : ℚ) : least (a * x) (a * y) = a * least x y := by
  rw [least_eq_min, least_eq_min, mul_min_of_nonneg x y ha.le]

theorem greatest_mul_zero (ha : 0 < a) (x : ℚ) : greatest (a * x) zero = a * greatest x zero := by
  rw [greatest_eq_max, greatest_eq_max, zero_eq, mul_max_of_nonneg x 0 ha.le, mul_zero]

end Scalar

variable (ha : 0 < a) (hb : 0 < b)

section Axis

include ha

/-- On one axis, it is all the same whether a side is fitted and then multiplied or the other way
round. -/
theorem Canvas.fitted_mul (position side extent : ℚ) :
    Scalar.least (a * side) (a * extent) = a * Scalar.least side extent ∧
      Scalar.least (Scalar.greatest (a * position) Scalar.zero)
          (a * extent - a * Scalar.least side extent) =
        a * Scalar.least (Scalar.greatest position Scalar.zero)
          (extent - Scalar.least side extent) := by
  refine ⟨Scalar.least_mul ha side extent, ?_⟩
  rw [Scalar.greatest_mul_zero ha, ← mul_sub, Scalar.least_mul ha]

theorem mul_lt_mul_add_iff (x y w : ℚ) : a * x < a * y + a * w ↔ x < y + w := by
  rw [← mul_add, mul_lt_mul_iff_right₀ ha]

end Axis

include ha hb

theorem Canvas.fit_scaled (c : Canvas ℚ) (z : Box ℚ) :
    (c.scaled a b).fit (z.scaled a b) = (c.fit z).scaled a b := by
  obtain ⟨hw, hx⟩ := fitted_mul ha z.x z.w c.width
  obtain ⟨hh, hy⟩ := fitted_mul hb z.y z.h c.height
  simp only [fit, scaled, Box.scaled, hw, hx, hh, hy]

theorem Box.overlaps_scaled (y z : Box ℚ) :
    (y.scaled a b).overlaps (z.scaled a b) = y.overlaps z := by
  rw [Bool.eq_iff_iff, overlaps_iff, overlaps_iff]
  simp only [scaled, mul_lt_mul_add_iff ha, mul_lt_mul_add_iff hb]

theorem Compiler.regionBox_scaled {r : Region ℚ} (hr : r.IsRelative) (c : Canvas ℚ) :
    regionBox (c.scaled a b) r = (regionBox c r).scaled a b := by
  rw [regionBox, regionBox, ← Canvas.fit_scaled ha hb]
  simp only [Canvas.scaled, Box.scaled, Length.onExtent_mul, hr.x, hr.y, hr.w, hr.h]

end Factors

namespace Drawing

/-- A text and the same one in a box that is scaled: there is a backdrop to both or to none. -/
structure Text.Follows (a b : ℚ) (x x' : Text ℚ) : Prop where
  text : x'.text = x.text
  box : x'.box = x.box.scaled a b
  backdrop : x'.backdrop.isSome = x.backdrop.isSome

/-- The pictures and texts of a slide, and the same ones in boxes that are scaled. -/
structure Slide.Follows (a b : ℚ) (s s' : Slide ℚ) : Prop where
  pictures : s'.pictures.map Picture.box = s.pictures.map fun p => p.box.scaled a b
  texts : List.Forall₂ (Text.Follows a b) s.texts s'.texts

end Drawing

namespace Compiler

open Attempt

variable {σ σ' : Type}

def onCanvas {α : Type} (c : Compiler α σ) (k : Canvas α) : Compiler α σ := { c with canvas := k }

/-- A generic slide has a picture in each of the boxes for its images, and the texts are drawn with
just these boxes in mind. -/
theorem compileSlide_generic {c : Compiler ℚ σ} {topic : Option String} {total index : ℕ}
    {objects : List (SlideObject ℚ)} {t u : σ} {s : Drawing.Slide ℚ}
    (h : (c.compileSlide topic total index (.generic objects)).outcome t = (.ok s, u)) :
    ∃ th : Theme, s.pictures.map Drawing.Picture.box = objectBoxes c.canvas objects ∧
      s.texts = (objects.filterMap SlideObject.text?).map fun r =>
        drawText c.canvas th (objectBoxes c.canvas objects) .top (escaped r) := by
  obtain ⟨refs, hrefs, his, -⟩ := compileSlide_eq_ok.1 h
  have hlength : (objectBoxes c.canvas objects).length = refs.length := by
    rw [← hrefs.forall₂.length_eq, objectBoxes, List.length_map, Slide.needs, length_objectNeeds]
  obtain ⟨index, is⟩ := s
  rw [assemble, assembleGeneric_eq, Except.ok.injEq] at his
  subst his
  exact ⟨_, by rw [pictures_stack, map_box_framed hlength], texts_stack ..⟩

section Scaled

variable {a b : ℚ} (ha : 0 < a) (hb : 0 < b) {objects : List (SlideObject ℚ)}
  (hobjects : ∀ o ∈ objects, o.region.IsRelative)
include ha hb

theorem drawText_follows {r : TextRegion ℚ} (hr : r.region.IsRelative) (c : Canvas ℚ)
    (t t' : Theme) (images : List (Box ℚ)) (v : VerticalAlign) :
    (drawText c t images v r).Follows a b
      (drawText (c.scaled a b) t' (images.map (Box.scaled a b)) v r) where
  text := rfl
  box := regionBox_scaled ha hb hr c
  backdrop := by
    have hoverlaps : (images.map (Box.scaled a b)).any (regionBox (c.scaled a b) r.region).overlaps =
        images.any (regionBox c r.region).overlaps := by
      rw [List.any_map, regionBox_scaled ha hb hr]
      exact List.any_congr rfl fun z => Box.overlaps_scaled ha hb _ z
    simp only [drawText, hoverlaps]
    split <;> rfl

include hobjects

theorem objectBoxes_scaled (c : Canvas ℚ) :
    objectBoxes (c.scaled a b) objects = (objectBoxes c objects).map (Box.scaled a b) := by
  rw [objectBoxes, objectBoxes, List.map_map]
  refine List.map_congr_left fun r hr => ?_
  obtain ⟨o, ho, himage⟩ := List.mem_filterMap.1 hr
  cases o with
  | text _ => cases himage
  | image _ =>
    cases himage
    exact regionBox_scaled ha hb (hobjects _ ho) c

theorem compileSlide_follows {c : Compiler ℚ σ} {c' : Compiler ℚ σ'}
    (hcanvas : c'.canvas = c.canvas.scaled a b) {topic topic' : Option String}
    {total total' index index' : ℕ} {t u : σ} {t' u' : σ'} {s s' : Drawing.Slide ℚ}
    (h : (c.compileSlide topic total index (.generic objects)).outcome t = (.ok s, u))
    (h' : (c'.compileSlide topic' total' index' (.generic objects)).outcome t' = (.ok s', u')) :
    s.Follows a b s' := by
  obtain ⟨th, hpictures, htexts⟩ := compileSlide_generic h
  obtain ⟨th', hpictures', htexts'⟩ := compileSlide_generic h'
  rw [hcanvas, objectBoxes_scaled ha hb hobjects] at hpictures' htexts'
  constructor
  · rw [hpictures', ← hpictures, List.map_map]
    rfl
  · rw [htexts, htexts', List.forall₂_map_left_iff, List.forall₂_map_right_iff, List.forall₂_same]
    intro r hr
    obtain ⟨o, ho, htext⟩ := List.mem_filterMap.1 hr
    cases o with
    | text _ =>
      cases htext
      exact drawText_follows (r := escaped r) ha hb (hobjects _ ho) c.canvas th th' _ .top
    | image _ => cases htext

end Scaled

/-- What is done for slides that place their objects themselves is the same for every canvas. -/
theorem effect_compile_onCanvas (c : Compiler ℚ σ) (k k' : Canvas ℚ) {d : Deck ℚ}
    (hd : ∀ s ∈ d.slides, s.model = .generic) :
    effect ((c.onCanvas k').compile d) = effect ((c.onCanvas k).compile d) := by
  by_cases hslides : d.slides = []
  · rw [compile, compile, hslides]
    rfl
  rw [effect_compile_eq_visits hslides, effect_compile_eq_visits hslides]
  refine forM_congr fun p hp => ?_
  have hgeneric := hd p.1 (List.fst_mem_of_mem_zipIdx hp)
  obtain ⟨s, i⟩ := p
  cases s with
  | generic objects => rfl
  | templated _ => cases hgeneric

/-- On any two canvases, a slide all of whose lengths are shares has the same pictures and texts,
the lengths across of their boxes in the ratio of the widths and those down in the ratio of the
heights, and the same texts have backdrops. What is done for slides that place their objects
themselves is the same for both canvases. -/
theorem percentages_follow_canvas {k k' : Canvas ℚ} (hwidth : 0 < k.width) (hheight : 0 < k.height)
    (hwidth' : 0 < k'.width) (hheight' : 0 < k'.height) :
    (∀ (c : Compiler ℚ σ) (c' : Compiler ℚ σ') (d : Deck ℚ) (t u : σ) (t' u' : σ')
        (g g' : Drawing ℚ),
      ((c.onCanvas k).compile d).outcome t = (.ok g, u) →
      ((c'.onCanvas k').compile d).outcome t' = (.ok g', u') →
      ∀ (i : ℕ) (objects : List (SlideObject ℚ)), d.slides[i]? = some (.generic objects) →
        (∀ o ∈ objects, o.region.IsRelative) →
        ∃ s s', g.slides[i]? = some s ∧ g'.slides[i]? = some s' ∧
          s.Follows (k'.width / k.width) (k'.height / k.height) s') ∧
      ∀ (c : Compiler ℚ σ) (d : Deck ℚ), (∀ s ∈ d.slides, s.model = .generic) →
        effect ((c.onCanvas k').compile d) = effect ((c.onCanvas k).compile d) := by
  refine ⟨?_, fun c d => c.effect_compile_onCanvas k k'⟩
  intro c c' d t u t' u' g g' h h' i objects hi hobjects
  have hscaled : k' = k.scaled (k'.width / k.width) (k'.height / k.height) := by
    rw [Canvas.scaled, div_mul_cancel₀ _ hwidth.ne', div_mul_cancel₀ _ hheight.ne']
  obtain ⟨hlt, -⟩ := List.getElem?_eq_some_iff.1 hi
  have hs := List.getElem?_eq_getElem ((length_compile h).symm ▸ hlt)
  have hs' := List.getElem?_eq_getElem ((length_compile h').symm ▸ hlt)
  obtain ⟨v, w, hslide⟩ := forall₂_zipIdx_getElem? (compile_forall₂ h) hi hs
  obtain ⟨v', w', hslide'⟩ := forall₂_zipIdx_getElem? (compile_forall₂ h') hi hs'
  exact ⟨_, _, hs, hs', compileSlide_follows (div_pos hwidth' hwidth) (div_pos hheight' hheight)
    hobjects hscaled hslide hslide'⟩

/-- A picture that is wider than any canvas, a text that comes to lie on it as it hangs over the
lower edge, and one beside it. -/
def overhang : Json :=
  .arr [.obj [("objects", .arr [
    .obj [("type", .str "text"), ("text", .str "on"), ("x", .str "50%"), ("y", .str "90%"),
      ("w", .str "30%"), ("h", .str "20%")],
    .obj [("type", .str "image"), ("urlOrQuery", .str "a lake"), ("x", .str "40%"),
      ("y", .str "25.5%"), ("w", .str "150%"), ("h", .str "60%")],
    .obj [("type", .str "text"), ("text", .str "beside"), ("x", .str "0%"), ("y", .str " 5 % "),
      ("w", .str "10%"), ("h", .str "20%")]])]]

def overhangObjects : List (SlideObject ℚ) :=
  let share (whole : String) : Length ℚ := .percent ⟨whole.toList, []⟩
  [.text ⟨⟨share "50", share "90", share "30", share "20"⟩, "on", 18, false, .left⟩,
    .image ⟨⟨share "40", .percent ⟨['2', '5'], ['5']⟩, share "150", share "60"⟩, "a lake"⟩,
    .text ⟨⟨share "0", share "5", share "10", share "20"⟩, "beside", 18, false, .left⟩]

theorem percentages_follow_canvas_overhang :
    ∃ d g g', Deck.parse overhang = .ok d ∧
      ((smallestRoomy.onCanvas .standard).compile d.exact).outcome () = (.ok g, ()) ∧
      ((smallestRoomy.onCanvas .widescreen).compile d.exact).outcome () = (.ok g', ()) ∧
      ∃ s s', g.slides[0]? = some s ∧ g'.slides[0]? = some s' ∧
        s.texts.map (fun x => x.backdrop.isSome) = [true, false] ∧
        s.Follows (13333 / 10000) 1 s' := by
  have hparse : ((Deck.parse overhang).toOption.any fun d =>
      decide (d.exact = ⟨[.generic overhangObjects], none⟩)) = true := by
    decide +kernel
  obtain ⟨d, hd, hdec⟩ := exists_eq_ok_of_any hparse
  have hexact := of_decide_eq_true hdec
  have hok : (((smallestRoomy.onCanvas .standard).compile
      ⟨[.generic overhangObjects], none⟩).outcome ()).1.toOption.any (fun g =>
        (g.slides.map fun s => s.texts.map fun x => x.backdrop.isSome) == [[true, false]]) = true := by
    decide +kernel
  have hok' : (((smallestRoomy.onCanvas .widescreen).compile
      ⟨[.generic overhangObjects], none⟩).outcome ()).1.isOk = true := by
    decide +kernel
  obtain ⟨g, _, hg, hbackdrops⟩ := exists_of_any hok
  obtain ⟨g', _, hg'⟩ := exists_of_isOk hok'
  have hrelative : ∀ o ∈ overhangObjects, o.region.IsRelative := by
    simp only [overhangObjects, List.forall_mem_cons]
    exact ⟨⟨rfl, rfl, rfl, rfl⟩, ⟨rfl, rfl, rfl, rfl⟩, ⟨rfl, rfl, rfl, rfl⟩,
      List.forall_mem_nil _⟩
  have hwidth : 0 < (Canvas.standard : Canvas ℚ).width := by decide +kernel
  have hheight : 0 < (Canvas.standard : Canvas ℚ).height := by decide +kernel
  have hwidth' : 0 < (Canvas.widescreen : Canvas ℚ).width := by decide +kernel
  have hheight' : 0 < (Canvas.widescreen : Canvas ℚ).height := by decide +kernel
  obtain ⟨s, s', hs, hs', hscaled⟩ :=
    (percentages_follow_canvas hwidth hheight hwidth' hheight').1 smallestRoomy smallestRoomy _
      () _ () _ g g' hg hg' 0 overhangObjects rfl hrelative
  have hacross : (Canvas.widescreen : Canvas ℚ).width / Canvas.standard.width = 13333 / 10000 := by
    norm_num [Canvas.widescreen, Canvas.standard, Scalar.decimal_eq]
  have hdown : (Canvas.widescreen : Canvas ℚ).height / Canvas.standard.height = 1 := by
    norm_num [Canvas.widescreen, Canvas.standard, Scalar.decimal_eq]
  rw [hacross, hdown] at hscaled
  refine ⟨d, g, g', hd, hexact ▸ hg, hexact ▸ hg', s, s', hs, hs', ?_, hscaled⟩
  have hfirst := congrArg (·[0]?) (eq_of_beq hbackdrops)
  rw [List.getElem?_map, hs] at hfirst
  exact Option.some.inj hfirst

end Compiler

end DeckPress
