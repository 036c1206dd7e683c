import DeckPress.Proofs.FittedBoxes
import DeckPress.Proofs.MissingPictures

/-!
# Which decks can be presented

Validation and compilation leave little that presenting can refuse. On the canvases that settings
can choose, every box that is drawn has a frame and every color of the standard palette can be read.
What is left are the texts: a compiled deck is presented, with no picture to be had, if and only if
no text holds a code point that documents cannot hold and none is larger than fonts can be.
-/
namespace DeckPress

open Attempt

/-- The sizes that the texts of a slide ask for; a layout chooses sizes of its own. -/
def Slide.fontSizes {α : Type} : Slide α → List Int
  | .generic objects => (objects.filterMap SlideObject.text?).map TextRegion.fontSize
  | .templated _ => []

namespace Presentation

def greatestPoints : Int := greatestFont / 100

end Presentation

/-- All that the slide says can be written, and in the sizes that it asks for. -/
structure Slide.IsWritable {α : Type} (s : Slide α) : Prop where
  texts : ∀ text ∈ s.sourceTexts, text.toList.any Text.isUnwritable = false
  sizes : ∀ n ∈ s.fontSizes, n ≤ Presentation.greatestPoints

theorem Slide.isWritable_iff {α : Type} (s : Slide α) :
    s.IsWritable ↔ (∀ text ∈ s.sourceTexts, text.toList.any Text.isUnwritable = false) ∧
      ∀ n ∈ s.fontSizes, n ≤ Presentation.greatestPoints :=
  ⟨fun h => ⟨h.texts, h.sizes⟩, fun ⟨htexts, hsizes⟩ => ⟨htexts, hsizes⟩⟩

instance {α : Type} (s : Slide α) : Decidable s.IsWritable := decidable_of_iff' _ s.isWritable_iff

namespace Presentation

def IsReadable (color : String) : Prop := (readColor color).isOk = true

instance : DecidablePred IsReadable := fun _ => inferInstanceAs (Decidable (_ = true))

/-- A text whose box, colors and size above zero are no reason to refuse it. -/
structure IsPlaced (t : Drawing.Text Float) : Prop where
  frame : ∃ f, frame t.box = .ok f
  color : IsReadable t.color
  backdrop : ∀ color, t.backdrop = some color → IsReadable color
  size : 0 < t.fontSize

def HasWritableLines (t : Drawing.Text Float) : Prop :=
  ∀ line ∈ Text.lines t.text.toList, line.any Text.isUnwritable = false

theorem exists_rectangle {b : Box Float} {color : String} (hb : ∃ f, frame b = .ok f)
    (hc : IsReadable color) (opacity : Option Nat) : ∃ r, rectangle b color opacity = .ok r := by
  obtain ⟨f, hf⟩ := hb
  obtain ⟨c, hc⟩ := exists_eq_ok_of_isOk hc
  exact ⟨.rectangle f c opacity, by rw [rectangle, hf, hc]; rfl⟩

section Texts

variable {t : Drawing.Text Float}

theorem IsPlaced.exists_font_iff (h : IsPlaced t) :
    (∃ f, font t = .ok f) ↔ t.fontSize ≤ greatestPoints := by
  obtain ⟨c, hc⟩ := exists_eq_ok_of_isOk h.color
  have hpos := h.size
  unfold font greatestPoints leastFont greatestFont
  rw [hc]
  dsimp only
  split
  · exact iff_of_true ⟨_, rfl⟩ (by omega)
  · exact iff_of_false nofun (by omega)

theorem exists_paragraph_iff (line : List Char) :
    (∃ p, paragraph t line = .ok p) ↔
      line.any Text.isUnwritable = false ∧ ∃ f, font t = .ok f := by
  rw [paragraph]
  cases hline : line.any Text.isUnwritable with
  | true => exact iff_of_false (fun ⟨_, hp⟩ => nomatch hp) (fun hw => nomatch hw.1)
  | false => exact exists_bind_pure_eq_ok.trans (and_iff_right rfl).symm

/-- Even an empty text has a line, so its font is always asked for. -/
theorem exists_textBox_iff :
    (∃ r, textBox t = .ok r) ↔
      (∃ f, frame t.box = .ok f) ∧ HasWritableLines t ∧ ∃ f, font t = .ok f := by
  have hparagraphs : (∃ r, textBox t = .ok r) ↔
      (∃ f, frame t.box = .ok f) ∧
        ∃ ps, (Text.lines t.text.toList).mapM (paragraph t) = .ok ps := by
    simp only [textBox, bind_eq_ok, pure_eq_ok]
    constructor
    · rintro ⟨_, f, hf, ps, hps, -⟩
      exact ⟨⟨f, hf⟩, ps, hps⟩
    · rintro ⟨⟨f, hf⟩, ps, hps⟩
      exact ⟨_, f, hf, ps, hps, rfl⟩
  rw [hparagraphs, exists_mapM_eq_ok]
  simp only [exists_paragraph_iff]
  refine and_congr_right fun _ => ?_
  constructor
  · intro hlines
    obtain ⟨line, hline⟩ := List.exists_mem_of_ne_nil _ (Text.pieces_ne_nil _ _)
    exact ⟨fun l hl => (hlines l hl).1, (hlines line hline).2⟩
  · rintro ⟨hlines, hfont⟩ line hline
    exact ⟨hlines line hline, hfont⟩

theorem exists_drawText_iff :
    (∃ ss, drawText t = .ok ss) ↔
      (∃ ss, Presentation.backdrop t = .ok ss) ∧ ∃ r, textBox t = .ok r := by
  simp only [drawText, bind_eq_ok, pure_eq_ok]
  constructor
  · rintro ⟨_, behind, hbehind, r, hr, -⟩
    exact ⟨⟨behind, hbehind⟩, r, hr⟩
  · rintro ⟨⟨behind, hbehind⟩, r, hr⟩
    exact ⟨_, behind, hbehind, r, hr, rfl⟩

theorem IsPlaced.exists_backdrop (h : IsPlaced t) : ∃ ss, Presentation.backdrop t = .ok ss := by
  unfold Presentation.backdrop
  split
  · exact ⟨[], rfl⟩
  · next color hcolor =>
    split
    · exact ⟨[], rfl⟩
    · obtain ⟨r, hr⟩ := exists_rectangle h.frame (h.backdrop color hcolor) (some backdropOpacity)
      exact ⟨[r], by rw [hr]; rfl⟩

theorem IsPlaced.exists_drawText_iff (h : IsPlaced t) :
    (∃ ss, drawText t = .ok ss) ↔ HasWritableLines t ∧ t.fontSize ≤ greatestPoints := by
  rw [Presentation.exists_drawText_iff, exists_textBox_iff, h.exists_font_iff]
  exact ⟨fun hdrawn => hdrawn.2.2, fun hwritten => ⟨h.exists_backdrop, h.frame, hwritten⟩⟩

/-- What is written in the source is what stands in the lines behind the escaped text. -/
theorem hasWritableLines_iff {s : String} (h : t.text = Text.sanitize s) :
    HasWritableLines t ↔ s.toList.any Text.isUnwritable = false := by
  rw [HasWritableLines, h, Text.sanitize, String.toList_ofList, Text.lines_encode,
    Text.any_isUnwritable_plainLines]

end Texts

end Presentation

open Presentation

structure Theme.IsReadable (t : Theme) : Prop where
  background : Presentation.IsReadable t.background
  text : Presentation.IsReadable t.text
  accent : Presentation.IsReadable t.accent

theorem Palette.standard_isReadable (index total : Nat) (hasImage : Bool) :
    (Palette.standard.theme index total hasImage).IsReadable := by
  have hswatches : ∀ s ∈ Palette.standard.swatches,
      IsReadable s.background ∧ IsReadable s.text ∧ IsReadable s.accent := by decide
  obtain ⟨hbackground, htext, haccent⟩ :=
    hswatches (Palette.standard.swatch index) (List.get_mem ..)
  refine ⟨?_, htext, haccent⟩
  -- behind an image another color may stand in for white
  change IsReadable (Palette.standard.background index hasImage)
  unfold Palette.background
  dsimp only
  split
  · exact (by decide : IsReadable Palette.standard.imageSafe)
  · exact hbackground

namespace Layout

/-- The sizes of the texts that a layout places. -/
def sizes : Layout → List Int
  | mainPoint => [mainPointSize]
  | titleOnly => [titleOnlySize]
  | twoContent => [bodySize, bodySize]
  | comparison => [labelSize, labelSize, bodySize, bodySize]
  | _ => [bodySize]

theorem drafts_fontSize {α : Type} [Scalar α] (l : Layout) (content : String) (b : Box α) :
    (l.drafts content b).map Draft.fontSize = l.sizes := by
  cases l <;> simp only [drafts, sizes, List.map]

theorem sizes_bounds (l : Layout) : ∀ n ∈ l.sizes, 0 < n ∧ n ≤ greatestPoints := by
  cases l <;> decide

end Layout

namespace Compiler

variable {k : CanvasChoice} {t : Theme}

theorem hasSize_canvas (k : CanvasChoice) : HasSize k.canvas := by
  have h : (slideSize (k.canvas : Canvas Float).width).isOk = true ∧
      (slideSize (k.canvas : Canvas Float).height).isOk = true := by
    cases k <;> decide
  exact ⟨exists_eq_ok_of_isOk h.1, exists_eq_ok_of_isOk h.2⟩

theorem exists_frame_decorationBox (k : CanvasChoice) (titled : Bool) (d : Decoration) :
    ∃ f, frame (decorationBox (k.canvas : Canvas Float) titled d) = .ok f := by
  have h : (frame (decorationBox (k.canvas : Canvas Float) titled d)).isOk = true := by
    cases k <;> cases titled <;> cases d <;> decide
  exact exists_eq_ok_of_isOk h

theorem backdrop_drawText {α : Type} [Scalar α] {c : Canvas α} {images : List (Box α)}
    {v : VerticalAlign} {r : TextRegion α} {color : String}
    (h : (drawText c t images v r).backdrop = some color) : color = t.background := by
  dsimp only [drawText] at h
  split at h
  · exact (Option.some.inj h).symm
  · cases h

theorem isPlaced_drawText (ht : t.IsReadable) (images : List (Box Float)) (v : VerticalAlign)
    {r : TextRegion Float} (hr : r.region.IsAdmitted) (hsize : 0 < r.fontSize) :
    IsPlaced (drawText k.canvas t images v r) where
  frame := exists_frame_regionBox k hr
  color := ht.text
  backdrop := fun color hcolor => by
    rw [backdrop_drawText hcolor]
    exact ht.background
  size := hsize

/-- The region of a draft of an admitted box and a size that fonts have. -/
def IsDrafted (r : TextRegion Float) : Prop :=
  r.region.IsAdmitted ∧ 0 < r.fontSize ∧ r.fontSize ≤ greatestPoints

theorem isDrafted_placed {d : Draft Float} (h : d.box.IsAdmitted)
    (hsize : 0 < d.fontSize ∧ d.fontSize ≤ greatestPoints) : IsDrafted d.placed :=
  ⟨Draft.placed_isAdmitted h, hsize⟩

theorem isDrafted_regions {l : Layout} {content : String} {b : Bounds Float}
    {rs : List (TextRegion Float)} (h : l.regions content b = .ok rs) : ∀ r ∈ rs, IsDrafted r := by
  obtain ⟨hadmitted, rfl⟩ := Layout.regions_eq_ok.1 h
  refine List.forall_mem_map.2 fun d hd => isDrafted_placed (hadmitted d hd) ?_
  refine l.sizes_bounds d.fontSize ?_
  rw [← Layout.drafts_fontSize l content b.box]
  exact List.mem_map_of_mem hd

theorem isDrafted_parts {s : TemplatedSlide} {ps : Parts Float}
    (h : parts (k.canvas : Canvas Float) s = .ok ps) :
    (∀ r ∈ ps.titles, IsDrafted r) ∧ ∀ r ∈ ps.content, IsDrafted r := by
  by_cases hl : Layout.ofOption s.layout = .titleOnly
  · obtain ⟨_, -, hr, -, htitles, -⟩ := parts_of_titleOnly hl h
    rw [htitles]
    exact ⟨List.forall_mem_nil _, isDrafted_regions hr⟩
  · obtain ⟨_, -, hr, -, htitles, -⟩ := parts_of_titled hl h
    rw [htitles]
    have hsize : 0 < titleSize ∧ titleSize ≤ greatestPoints := by decide
    refine ⟨List.forall_mem_singleton.2 ?_, isDrafted_regions hr⟩
    exact isDrafted_placed ((hasRoom_canvas k).titleDraft_isAdmitted s.title) hsize

/-- Texts that are placed, and no larger than what their slide asks for. -/
structure ArePlaced (s : Slide Float) (ts : List (Drawing.Text Float)) : Prop where
  placed : ∀ x ∈ ts, IsPlaced x
  sizes : (∀ x ∈ ts, x.fontSize ≤ greatestPoints) ↔ ∀ n ∈ s.fontSizes, n ≤ greatestPoints

theorem arePlaced_generic (ht : t.IsReadable) {objects : List (SlideObject Float)}
    (h : (Slide.generic objects).IsAdmitted) (images : List (Box Float)) :
    ArePlaced (.generic objects)
      ((objects.filterMap SlideObject.text?).map fun r =>
        drawText k.canvas t images .top (escaped r)) := by
  constructor
  · refine List.forall_mem_map.2 fun r hr => ?_
    obtain ⟨o, ho, hor⟩ := List.mem_filterMap.1 hr
    cases o with
    | image r => cases hor
    | text r =>
      cases hor
      obtain ⟨hregion, hsize⟩ := h _ ho
      exact isPlaced_drawText (r := escaped r) ht images .top hregion hsize
  · rw [Slide.fontSizes, List.forall_mem_map, List.forall_mem_map]
    rfl

theorem arePlaced_templated (ht : t.IsReadable) {s : TemplatedSlide} {ps : Parts Float}
    (h : parts (k.canvas : Canvas Float) s = .ok ps) (images : List (Box Float)) :
    ArePlaced (.templated s)
      (ps.titles.map (drawText k.canvas t images .top) ++
        ps.content.map (drawText k.canvas t images ps.valign)) := by
  obtain ⟨htitles, hcontent⟩ := isDrafted_parts h
  have hplaced {v : VerticalAlign} {r : TextRegion Float} (hr : IsDrafted r) :
      IsPlaced (drawText k.canvas t images v r) := isPlaced_drawText ht images v hr.1 hr.2.1
  constructor
  · rw [List.forall_mem_append, List.forall_mem_map, List.forall_mem_map]
    exact ⟨fun r hr => hplaced (htitles r hr), fun r hr => hplaced (hcontent r hr)⟩
  · -- the slide asks for no sizes, and those of layouts are all sizes of fonts
    refine iff_of_true ?_ nofun
    rw [List.forall_mem_append, List.forall_mem_map, List.forall_mem_map]
    exact ⟨fun r hr => (htitles r hr).2.2, fun r hr => (hcontent r hr).2.2⟩

/-- An assembled slide is a stack whose texts are placed, whatever images it was given. -/
theorem assemble_arePlaced {index total : Nat} {s : Slide Float} {refs : List Image.Reference}
    {is : List (Drawing.Instruction Float)} (hs : s.IsAdmitted)
    (h : assemble (k.canvas : Canvas Float) .standard index total s refs = .ok is) :
    ∃ (t : Theme) (titled : Bool) (ps : List (Drawing.Picture Float))
      (ts : List (Drawing.Text Float)), t.IsReadable ∧ is = stack k.canvas t titled ps ts ∧
        ArePlaced s ts := by
  cases s with
  | generic objects =>
    rw [assemble, assembleGeneric_eq, Except.ok.injEq] at h
    have ht := Palette.standard_isReadable index total !(objectBoxes k.canvas objects).isEmpty
    exact ⟨_, _, _, _, ht, h.symm, arePlaced_generic ht hs _⟩
  | templated s =>
    obtain ⟨ps, hps, his⟩ := assembleTemplated_eq_ok.1 h
    have ht := Palette.standard_isReadable index total s.imageQuery.isSome
    exact ⟨_, _, _, _, ht, his, arePlaced_templated ht hps _⟩

/-- Without any picture only the texts of a stack can be refused. -/
theorem forall_adds_stack_iff (ht : t.IsReadable) (titled : Bool)
    (ps : List (Drawing.Picture Float)) (ts : List (Drawing.Text Float)) :
    (∀ i ∈ stack k.canvas t titled ps ts, ∃ ss, adds unreachable i = .ok ss) ↔
      ∀ x ∈ ts, ∃ ss, Presentation.drawText x = .ok ss := by
  obtain ⟨background, hbackground⟩ := exists_eq_ok_of_isOk ht.background
  obtain ⟨r, hr⟩ :=
    exists_rectangle (exists_frame_decorationBox k titled t.decoration) ht.accent none
  have hground : ∀ i ∈ ground (k.canvas : Canvas Float) t titled,
      ∃ ss, adds unreachable i = .ok ss := by
    refine List.forall_mem_cons.2 ⟨⟨[], ?_⟩, List.forall_mem_singleton.2 ⟨[r], ?_⟩⟩
    · rw [adds, hbackground]
      rfl
    · rw [adds, hr]
      rfl
  rw [stack, List.forall_mem_append, List.forall_mem_append, List.forall_mem_map,
    List.forall_mem_map, and_iff_right hground]
  exact and_iff_right fun q _ => ⟨[], rfl⟩

/-- Without any picture a compiled slide can be drawn if and only if its source is writable. -/
theorem forall_adds_compileSlide_iff {σ : Type} {c : Compiler Float σ}
    (hk : c.canvas = k.canvas) (hp : c.palette = .standard) {topic : Option String}
    {total index : Nat} {s : Slide Float} {u u' : σ} {out : Drawing.Slide Float}
    (hs : s.IsAdmitted) (h : (c.compileSlide topic total index s).outcome u = (.ok out, u')) :
    (∀ i ∈ out.instructions, ∃ ss, adds unreachable i = .ok ss) ↔ s.IsWritable := by
  have htexts := text_of_draws (compileSlide_draws h).2.2.2
  obtain ⟨refs, -, his, hindex⟩ := compileSlide_eq_ok.1 h
  obtain ⟨j, is⟩ := out
  rw [hk, hp] at his
  obtain ⟨t, titled, ps, ts, ht, rfl, hts⟩ := assemble_arePlaced hs his
  rw [texts_stack] at htexts
  have hwritable : (∀ x ∈ ts, HasWritableLines x) ↔
      ∀ text ∈ s.sourceTexts, text.toList.any Text.isUnwritable = false :=
    forall_mem_iff_of_forall₂
      ((forall₂_eq_iff_map_eq.2 htexts).imp fun _ _ => hasWritableLines_iff)
  calc (∀ i ∈ stack k.canvas t titled ps ts, ∃ ss, adds unreachable i = .ok ss)
      ↔ ∀ x ∈ ts, ∃ ss, Presentation.drawText x = .ok ss := forall_adds_stack_iff ht titled ps ts
    _ ↔ ∀ x ∈ ts, HasWritableLines x ∧ x.fontSize ≤ greatestPoints :=
        forall₂_congr fun x hx => (hts.placed x hx).exists_drawText_iff
    _ ↔ s.IsWritable := by rw [forall₂_and, hwritable, hts.sizes, s.isWritable_iff]

end Compiler

/-- On a canvas that settings can choose and in the standard palette, a deck with slides is compiled
if a missing image is no reason to fail, and with no picture to be had the drawing is presented if
and only if every slide of the deck is writable. -/
theorem presents_iff_isWritable {σ : Type} {c : Compiler Float σ} {k : CanvasChoice}
    (hk : c.canvas = k.canvas) (hp : c.palette = .standard) (hc : c.IsLenient) {data : Json}
    {d : Deck Float} (hd : Deck.parse data = .ok d) (hne : d.slides ≠ []) (t : σ) :
    ∃ g t', (c.compileData data).outcome t = (.ok g, t') ∧
      ∀ (τ : Type) (blind : Fetcher τ), IsBlind blind → ∀ u : τ,
        (∃ p u', (ofDrawing blind g).outcome u = (.ok p, u')) ↔ ∀ s ∈ d.slides, s.IsWritable := by
  obtain ⟨g, t', hg⟩ := Compiler.compile_returns hc (Compiler.assembles_of_choice hk) hne t
  refine ⟨g, t', ?_, fun τ blind hblind u => ?_⟩
  · refine outcome_bind_eq_ok.2 ⟨d, t, ?_, hg⟩
    rw [outcome_ofExcept, hd]
    rfl
  · have hsize : HasSize g.canvas := by
      rw [(Compiler.compile_eq_ok.1 hg).2.1, hk]
      exact Compiler.hasSize_canvas k
    have hadmitted : ∀ p ∈ d.slides.zipIdx, p.1.IsAdmitted := by
      rw [← List.forall_mem_map (f := Prod.fst), List.zipIdx_map_fst]
      exact Deck.parse_isAdmitted hd
    have hslides : List.Forall₂
        (fun out s => (∀ i ∈ out.instructions, ∃ ss, adds unreachable i = .ok ss) ↔ s.IsWritable)
        g.slides d.slides := by
      rw [← List.zipIdx_map_fst 0 d.slides, List.forall₂_map_right_iff]
      have hcompiled := (List.forall₂_and_left _ _).2 ⟨hadmitted, Compiler.compile_forall₂ hg⟩
      exact (hcompiled.imp fun p out ⟨hs, _, _, hv⟩ =>
        Compiler.forall_adds_compileSlide_iff hk hp hs hv).flip
    rw [ofDrawing_returns_iff hblind.gives, and_iff_right hsize,
      forall_mem_iff_of_forall₂ hslides]

/-- One slide with a text of some size, and one with a title. -/
def sizedDeck (size : Int) : Json :=
  .arr [.obj [("objects", .arr
      [.obj [("type", .str "text"), ("text", .str "Big"), ("x", .int 1), ("y", .int 1),
        ("w", .int 4), ("h", .int 1), ("fontSize", .int size)]])],
    .obj [("title", .str "End")]]

/-- The deck is accepted and has slides, but it is writable only in a size that fonts have. -/
theorem parse_sizedDeck :
    ((Deck.parse (sizedDeck 4000)).toOption.any fun d =>
      decide (d.slides ≠ [] ∧ ∀ s ∈ d.slides, s.IsWritable)) = true ∧
    ((Deck.parse (sizedDeck 5000)).toOption.any fun d => decide (d.slides ≠ [])) = true := by
  decide +kernel

theorem presents_sizedDeck :
    ∃ d g t p u, Deck.parse (sizedDeck 4000) = .ok d ∧ d.slides ≠ [] ∧
      (∀ s ∈ d.slides, s.IsWritable) ∧
      (Compiler.plainCompiler.compileData (sizedDeck 4000)).outcome () = (.ok g, t) ∧
      (ofDrawing noPictures g).outcome () = (.ok p, u) := by
  obtain ⟨d, hd, hdec⟩ := exists_eq_ok_of_any parse_sizedDeck.1
  obtain ⟨hne, hwritable⟩ := of_decide_eq_true hdec
  have hc : Compiler.plainCompiler.IsLenient := ⟨rfl, fun _ h => by cases h⟩
  obtain ⟨g, t, hg, hiff⟩ := presents_iff_isWritable (k := .standard) rfl rfl hc hd hne ()
  obtain ⟨p, u, hp⟩ := (hiff Unit noPictures isBlind_noPictures ()).2 hwritable
  exact ⟨d, g, t, p, u, hd, hne, hwritable, hg, hp⟩

/-- Whether the deck is presented without any picture, if it is compiled. -/
def sizedDeckIsPresented (size : Int) : Option Bool :=
  match (Compiler.plainCompiler.compileData (sizedDeck size)).outcome () with
  | (.ok g, _) => some ((ofDrawing noPictures g).outcome ()).1.isOk
  | (.error _, _) => none

/-- A size above those of fonts is accepted and compiled, but not presented. -/
theorem presents_not_if_tooLarge :
    ¬∀ (data : Json) (d : Deck Float), Deck.parse data = .ok d → d.slides ≠ [] →
        ∃ g t p u, (Compiler.plainCompiler.compileData data).outcome () = (.ok g, t) ∧
          (ofDrawing noPictures g).outcome () = (.ok p, u) := by
  intro h
  obtain ⟨d, hd, hdec⟩ := exists_eq_ok_of_any parse_sizedDeck.2
  obtain ⟨g, t, p, u, hg, hp⟩ := h (sizedDeck 5000) d hd (of_decide_eq_true hdec)
  have hrefused : sizedDeckIsPresented 5000 = some false := by decide +kernel
  unfold sizedDeckIsPresented at hrefused
  rw [hg] at hrefused
  dsimp only at hrefused
  rw [hp] at hrefused
  cases hrefused

end DeckPress
