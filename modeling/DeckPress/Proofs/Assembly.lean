import DeckPress.Compiler
import DeckPress.Proofs.LayoutRegions

/-!
# How slides are assembled

A slide that is assembled is a stack: background, decoration, pictures, and above them the texts.
The lemmas say for both kinds of slides which pictures and which texts these are.
-/
namespace DeckPress

namespace Drawing

variable {α : Type}

def Instruction.picture? : Instruction α → Option (Picture α)
  | picture p => some p
  | _ => none

def Instruction.text? : Instruction α → Option (Text α)
  | text t => some t
  | _ => none

def Slide.pictures (s : Slide α) : List (Picture α) := s.instructions.filterMap Instruction.picture?

def Slide.texts (s : Slide α) : List (Text α) := s.instructions.filterMap Instruction.text?

/-- One background, one decoration, the pictures, and above them the texts. -/
def Slide.IsStack (s : Slide α) : Prop :=
  ∃ color shape, s.instructions =
    .background color :: .shape shape :: (s.pictures.map .picture ++ s.texts.map .text)

theorem filterMap_picture_pictures (ps : List (Picture α)) :
    (ps.map Instruction.picture).filterMap Instruction.picture? = ps := by
  simp [List.filterMap_map, Function.comp_def, Instruction.picture?]

theorem filterMap_picture_texts (ts : List (Text α)) :
    (ts.map Instruction.text).filterMap Instruction.picture? = [] := by
  simp [List.filterMap_map, Function.comp_def, Instruction.picture?]

theorem filterMap_text_pictures (ps : List (Picture α)) :
    (ps.map Instruction.picture).filterMap Instruction.text? = [] := by
  simp [List.filterMap_map, Function.comp_def, Instruction.text?]

theorem filterMap_text_texts (ts : List (Text α)) :
    (ts.map Instruction.text).filterMap Instruction.text? = ts := by
  simp [List.filterMap_map, Function.comp_def, Instruction.text?]

end Drawing

namespace Compiler

variable {α : Type} [Scalar α]

/-- The ground of a slide with pictures and texts on it. -/
def stack (c : Canvas α) (t : Theme) (titled : Bool) (ps : List (Drawing.Picture α))
    (ts : List (Drawing.Text α)) : List (Drawing.Instruction α) :=
  ground c t titled ++ (ps.map .picture ++ ts.map .text)

theorem pictures_stack (i : Int) (c : Canvas α) (t : Theme) (titled : Bool)
    (ps : List (Drawing.Picture α)) (ts : List (Drawing.Text α)) :
    (⟨i, stack c t titled ps ts⟩ : Drawing.Slide α).pictures = ps := by
  simp only [Drawing.Slide.pictures, stack, ground, List.cons_append, List.nil_append,
    List.filterMap_cons, Drawing.Instruction.picture?, List.filterMap_append,
    Drawing.filterMap_picture_pictures, Drawing.filterMap_picture_texts, List.append_nil]

theorem texts_stack (i : Int) (c : Canvas α) (t : Theme) (titled : Bool)
    (ps : List (Drawing.Picture α)) (ts : List (Drawing.Text α)) :
    (⟨i, stack c t titled ps ts⟩ : Drawing.Slide α).texts = ts := by
  simp only [Drawing.Slide.texts, stack, ground, List.cons_append, List.nil_append,
    List.filterMap_cons, Drawing.Instruction.text?, List.filterMap_append,
    Drawing.filterMap_text_pictures, Drawing.filterMap_text_texts]

theorem isStack_stack (i : Int) (c : Canvas α) (t : Theme) (titled : Bool)
    (ps : List (Drawing.Picture α)) (ts : List (Drawing.Text α)) :
    (⟨i, stack c t titled ps ts⟩ : Drawing.Slide α).IsStack := by
  refine ⟨t.background, ⟨t.decoration, decorationBox c titled t.decoration, t.accent⟩, ?_⟩
  rw [pictures_stack, texts_stack]
  rfl

/-- The picture of an image in its box. -/
def framed (box : Box α) (r : Image.Reference) : Drawing.Picture α := ⟨r.url, box, r.isFallback⟩

omit [Scalar α] in
theorem zipWith_drawImage (boxes : List (Box α)) (refs : List Image.Reference) :
    List.zipWith drawImage boxes refs = (List.zipWith framed boxes refs).map .picture := by
  simp only [List.map_zipWith]
  rfl

theorem drawTexts_eq_map (c : Canvas α) (t : Theme) (images : List (Box α)) (v : VerticalAlign)
    (rs : List (TextRegion α)) :
    drawTexts c t images v rs = (rs.map (drawText c t images v)).map .text := by
  simp [drawTexts]

/-- The boxes of the images among the objects of a slide. -/
def objectBoxes (c : Canvas α) (objects : List (SlideObject α)) : List (Box α) :=
  (objects.filterMap SlideObject.image?).map fun r => regionBox c r.region

theorem assembleGeneric_eq (c : Canvas α) (p : Palette) (index total : Nat)
    (objects : List (SlideObject α)) (refs : List Image.Reference) :
    assembleGeneric c p index total objects refs =
      let boxes := objectBoxes c objects
      let t := p.theme index total !boxes.isEmpty
      stack c t false (List.zipWith framed boxes refs)
        ((objects.filterMap SlideObject.text?).map fun r =>
          drawText c t boxes .top (escaped r)) := by
  simp only [assembleGeneric, zipWith_drawImage, drawTexts_eq_map, stack, objectBoxes,
    List.append_assoc, List.map_map]
  rfl

theorem assembleTemplated_eq_ok {c : Canvas α} {p : Palette} {index total : Nat}
    {s : TemplatedSlide} {refs : List Image.Reference} {is : List (Drawing.Instruction α)} :
    assembleTemplated c p index total s refs = .ok is ↔
      ∃ ps, parts c s = .ok ps ∧
        let boxes := ps.image.toList
        let t := p.theme index total s.imageQuery.isSome
        is = stack c t true (List.zipWith framed boxes refs)
          (ps.titles.map (drawText c t boxes .top) ++
            ps.content.map (drawText c t boxes ps.valign)) := by
  simp only [assembleTemplated, bind_eq_ok, pure_eq_ok, zipWith_drawImage, drawTexts_eq_map,
    stack, List.append_assoc, List.map_append]
  exact exists_congr fun ps => and_congr_right fun _ => eq_comm

/-- The box in which the content of a slide with a title is placed. -/
def contentBox (c : Canvas α) (hasImage : Bool) : Box α :=
  if hasImage then besideImage (bodyBox c) else bodyBox c

theorem contentBounds_eq_ok {body b : Bounds α} {hasImage : Bool}
    (h : contentBounds body hasImage = .ok b) :
    b.box = if hasImage then besideImage body.box else body.box := by
  unfold contentBounds at h
  split at h
  · next hi => rw [if_pos hi]; exact (Bounds.ofBox_eq_ok.1 h).2.2
  · next hi => rw [if_neg hi]; cases h; rfl

/-- The only text of a slide lies in the middle. -/
theorem parts_of_titleOnly {c : Canvas α} {s : TemplatedSlide} {ps : Parts α}
    (hl : Layout.ofOption s.layout = .titleOnly) (h : parts c s = .ok ps) :
    ∃ b : Bounds α, b.box = middleBox c ∧
      Layout.titleOnly.regions (loneText s) b = .ok ps.content ∧
      ps.image = s.imageQuery.map (fun _ => c.box) ∧ ps.titles = [] ∧ ps.valign = .middle := by
  simp only [parts, bind_eq_ok, hl, titleOnlyParts, pure_eq_ok] at h
  obtain ⟨_, -, b, hb, content, hc, rfl⟩ := h
  exact ⟨b, (Bounds.ofBox_eq_ok.1 hb).2.2, hc, rfl, rfl, rfl⟩

/-- A slide with a title places its content below, beside the image if it has one. -/
theorem parts_of_titled {c : Canvas α} {s : TemplatedSlide} {ps : Parts α}
    (hl : Layout.ofOption s.layout ≠ .titleOnly) (h : parts c s = .ok ps) :
    ∃ b : Bounds α, b.box = contentBox c s.imageQuery.isSome ∧
      (Layout.ofOption s.layout).regions s.content b = .ok ps.content ∧
      ps.image = s.imageQuery.map (fun _ => imageBox (bodyBox c)) ∧
      ps.titles = [(titleDraft c s.title).placed] ∧ ps.valign = .top := by
  simp only [parts, bind_eq_ok] at h
  obtain ⟨body, hbody, h⟩ := h
  simp only [titledParts, bind_eq_ok, pure_eq_ok] at h
  obtain ⟨b, hb, title, ht, content, hc, rfl⟩ := h
  obtain ⟨-, rfl⟩ := Draft.region_eq_ok.1 ht
  have hbox := (Bounds.ofBox_eq_ok.1 hbody).2.2
  have hcontent := contentBounds_eq_ok hb
  rw [hbox] at hcontent
  refine ⟨b, hcontent, hc, ?_, rfl, rfl⟩
  rw [hbox]

end Compiler

end DeckPress
