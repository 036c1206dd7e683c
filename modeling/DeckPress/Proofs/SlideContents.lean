import DeckPress.Proofs.Compilation

/-!
# What compiled slides hold

Nothing of a deck is lost or drawn twice. The slide at a position is compiled to the slide with
that index; its images become pictures and its texts become texts, one for one and in their order,
and all pictures lie below all texts.
-/
namespace DeckPress.Compiler

open Attempt

variable {α σ : Type}

/-- The picture is the image that the compiler resolves the need to, from some state. -/
def PictureFor (c : Compiler α σ) (index : Nat) (n : Need) (p : Drawing.Picture α) : Prop :=
  ∃ r, (∃ t t', (c.resolve index n).outcome t = (.ok r, t')) ∧
    p.url = r.url ∧ p.isFallback = r.isFallback

variable [Scalar α]

structure Shows (c : Canvas α) (v : VerticalAlign) (r : TextRegion α) (t : Drawing.Text α) :
    Prop where
  text : t.text = r.text
  box : t.box = regionBox c r.region
  fontSize : t.fontSize = r.fontSize
  bold : t.bold = r.bold
  align : t.align = r.align
  valign : t.valign = v

theorem shows_drawText (c : Canvas α) (t : Theme) (images : List (Box α)) (v : VerticalAlign)
    (r : TextRegion α) : Shows c v r (drawText c t images v r) :=
  ⟨rfl, rfl, rfl, rfl, rfl, rfl⟩

theorem forall₂_shows (c : Canvas α) (t : Theme) (images : List (Box α)) (v : VerticalAlign)
    (rs : List (TextRegion α)) : List.Forall₂ (Shows c v) rs (rs.map (drawText c t images v)) :=
  List.forall₂_map_right_iff.2 (List.forall₂_same.2 fun r _ => shows_drawText c t images v r)

/-- A generic slide: a picture for every image object and a text for every text object. -/
def DrawsObjects (c : Canvas α) (objects : List (SlideObject α)) (out : Drawing.Slide α) : Prop :=
  List.Forall₂ (fun r p => p.box = regionBox c r.region) (objects.filterMap SlideObject.image?)
      out.pictures ∧
    List.Forall₂ (fun r t => Shows c .top (escaped r) t) (objects.filterMap SlideObject.text?)
      out.texts

/-- A slide without a title of its own: one text, in the middle. -/
def DrawsLoneText (c : Canvas α) (s : TemplatedSlide) (out : Drawing.Slide α) : Prop :=
  ∃ (b : Bounds α) (r : TextRegion α) (t : Drawing.Text α), b.box = middleBox c ∧
    Layout.titleOnly.regions (loneText s) b = .ok [r] ∧ out.texts = [t] ∧ Shows c .middle r t

/-- A slide with a title: the title, and the regions of its layout in their order. -/
def DrawsTitled (c : Canvas α) (s : TemplatedSlide) (out : Drawing.Slide α) : Prop :=
  ∃ (b : Bounds α) (rs : List (TextRegion α)) (title : Drawing.Text α)
      (rest : List (Drawing.Text α)),
    b.box = contentBox c s.imageQuery.isSome ∧
      (Layout.ofOption s.layout).regions s.content b = .ok rs ∧ out.texts = title :: rest ∧
      title.text = Text.sanitize s.title ∧ title.bold = true ∧ title.valign = .top ∧
      List.Forall₂ (Shows c .top) rs rest

/-- A templated slide: at most one picture, and its texts as the layout has them. -/
def DrawsTemplate (c : Canvas α) (s : TemplatedSlide) (out : Drawing.Slide α) : Prop :=
  out.pictures.length = (if s.imageQuery.isSome then 1 else 0) ∧
    if Layout.ofOption s.layout = .titleOnly then DrawsLoneText c s out else DrawsTitled c s out

def Draws (c : Canvas α) (out : Drawing.Slide α) : Slide α → Prop
  | .generic objects => DrawsObjects c objects out
  | .templated s => DrawsTemplate c s out

omit [Scalar α] in
theorem length_objectNeeds (topic text : String) (position : Nat)
    (objects : List (SlideObject α)) :
    (Slide.objectNeeds topic text position objects).length =
      (objects.filterMap SlideObject.image?).length := by
  induction objects generalizing position with
  | nil => rfl
  | cons o os ih =>
    cases o <;> simp [Slide.objectNeeds, SlideObject.image?, List.filterMap_cons, ih]

theorem length_templatedNeeds (topic : String) (s : TemplatedSlide) :
    (Slide.templatedNeeds topic s).length = if s.imageQuery.isSome then 1 else 0 := by
  unfold Slide.templatedNeeds
  cases s.imageQuery <;> rfl

omit [Scalar α] in
theorem forall₂_framed {c : Compiler α σ} {index : Nat} {ns : List Need}
    {refs : List Image.Reference} {t t' : σ} (h : Traverses (c.resolve index) ns t refs t')
    {boxes : List (Box α)} (hl : boxes.length = ns.length) :
    List.Forall₂ (c.PictureFor index) ns (List.zipWith framed boxes refs) := by
  induction h generalizing boxes with
  | nil =>
    rw [List.length_nil, List.length_eq_zero_iff] at hl
    rw [hl]
    exact .nil
  | cons head _ ih =>
    obtain ⟨box, boxes, rfl⟩ := List.exists_cons_of_length_eq_add_one hl
    exact .cons ⟨_, ⟨_, _, head⟩, rfl, rfl⟩ (ih (by simpa using hl))

omit [Scalar α] in
theorem forall₂_box_framed {boxes : List (Box α)} {refs : List Image.Reference}
    (hl : boxes.length = refs.length) :
    List.Forall₂ (fun b p => p.box = b) boxes (List.zipWith framed boxes refs) := by
  induction boxes generalizing refs with
  | nil => exact .nil
  | cons b bs ih =>
    obtain ⟨r, rs, rfl⟩ := List.exists_cons_of_length_eq_add_one hl.symm
    exact .cons rfl (ih (by simpa using hl))

theorem length_image {c : Canvas α} {s : TemplatedSlide} {ps : Parts α}
    (h : parts c s = .ok ps) :
    ps.image.toList.length = if s.imageQuery.isSome then 1 else 0 := by
  by_cases ht : Layout.ofOption s.layout = .titleOnly
  · obtain ⟨-, -, -, himage, -⟩ := parts_of_titleOnly ht h
    rw [himage]
    cases s.imageQuery <;> rfl
  · obtain ⟨-, -, -, himage, -⟩ := parts_of_titled ht h
    rw [himage]
    cases s.imageQuery <;> rfl

theorem regions_titleOnly {content : String} {b : Bounds α} {rs : List (TextRegion α)}
    (h : Layout.titleOnly.regions content b = .ok rs) : ∃ r, rs = [r] := by
  obtain ⟨-, rfl⟩ := Layout.regions_eq_ok.1 h
  exact ⟨_, rfl⟩

/-- Whatever its kind, an assembled slide is a stack with a box for every need. -/
theorem assemble_stack {c : Canvas α} {p : Palette} {index total : Nat} {s : Slide α}
    {refs : List Image.Reference} {is : List (Drawing.Instruction α)}
    (h : assemble c p index total s refs = .ok is) (topic : Option String) :
    ∃ t titled boxes ts, boxes.length = (s.needs topic).length ∧
      is = stack c t titled (List.zipWith framed boxes refs) ts := by
  cases s with
  | generic objects =>
    rw [assemble, assembleGeneric_eq, Except.ok.injEq] at h
    refine ⟨_, _, objectBoxes c objects, _, ?_, h.symm⟩
    rw [objectBoxes, List.length_map, Slide.needs, length_objectNeeds]
  | templated s =>
    obtain ⟨ps, hps, his⟩ := assembleTemplated_eq_ok.1 h
    refine ⟨_, _, ps.image.toList, _, ?_, his⟩
    rw [Slide.needs, length_templatedNeeds, length_image hps]

theorem assembleGeneric_draws (c : Canvas α) (p : Palette) (index total : Nat)
    (objects : List (SlideObject α)) {refs : List Image.Reference}
    (hl : (objects.filterMap SlideObject.image?).length = refs.length) :
    DrawsObjects c objects ⟨index, assembleGeneric c p index total objects refs⟩ := by
  rw [assembleGeneric_eq]
  constructor
  · rw [pictures_stack]
    have hboxes : (objectBoxes c objects).length = refs.length := by
      rw [objectBoxes, List.length_map, hl]
    exact List.forall₂_map_left_iff.1 (forall₂_box_framed hboxes)
  · rw [texts_stack]
    exact List.forall₂_map_right_iff.2 (List.forall₂_same.2 fun r _ => shows_drawText ..)

theorem assembleTemplated_draws {c : Canvas α} {p : Palette} {index total : Nat}
    {s : TemplatedSlide} {refs : List Image.Reference} {is : List (Drawing.Instruction α)}
    (h : assembleTemplated c p index total s refs = .ok is)
    (hl : refs.length = if s.imageQuery.isSome then 1 else 0) :
    DrawsTemplate c s ⟨index, is⟩ := by
  obtain ⟨ps, hps, rfl⟩ := assembleTemplated_eq_ok.1 h
  let t := p.theme index total s.imageQuery.isSome
  constructor
  · rw [pictures_stack, List.length_zipWith, length_image hps, hl, Nat.min_self]
  · split
    · next ht =>
      obtain ⟨b, hb, hcontent, -, htitles, hvalign⟩ := parts_of_titleOnly ht hps
      obtain ⟨r, hr⟩ := regions_titleOnly hcontent
      rw [hr] at hcontent
      refine ⟨b, r, drawText c t ps.image.toList .middle r, hb, hcontent, ?_, shows_drawText ..⟩
      rw [texts_stack, htitles, hr, hvalign]
      rfl
    · next ht =>
      obtain ⟨b, hb, hcontent, -, htitles, hvalign⟩ := parts_of_titled ht hps
      refine ⟨b, ps.content, drawText c t ps.image.toList .top (titleDraft c s.title).placed, _, hb,
        hcontent, ?_, rfl, rfl, rfl, forall₂_shows c t ps.image.toList .top ps.content⟩
      rw [texts_stack, htitles, hvalign]
      rfl

theorem compileSlide_draws {c : Compiler α σ} {topic : Option String} {total index : Nat}
    {s : Slide α} {t t' : σ} {out : Drawing.Slide α}
    (h : (c.compileSlide topic total index s).outcome t = (.ok out, t')) :
    out.index = index ∧ out.IsStack ∧
      List.Forall₂ (c.PictureFor index) (s.needs topic) out.pictures ∧ Draws c.canvas out s := by
  obtain ⟨refs, hrefs, his, hindex⟩ := compileSlide_eq_ok.1 h
  obtain ⟨_, is⟩ := out
  cases hindex
  have hl := hrefs.forall₂.length_eq.symm
  obtain ⟨_, _, boxes, _, hboxes, hstack⟩ := assemble_stack his topic
  have hdraws : Draws c.canvas ⟨index, is⟩ s := by
    cases s with
    | generic objects =>
      rw [Slide.needs, length_objectNeeds] at hl
      cases his
      exact assembleGeneric_draws _ _ _ _ _ hl.symm
    | templated s =>
      rw [Slide.needs, length_templatedNeeds] at hl
      exact assembleTemplated_draws his hl
  dsimp only at hstack
  subst hstack
  refine ⟨rfl, isStack_stack .., ?_, hdraws⟩
  rw [pictures_stack]
  exact forall₂_framed hrefs hboxes

/-- A slide with an image between its two texts, and one that asks for an image of the topic. -/
def mixedDeck : Deck Float where
  slides :=
    let place : Region Float :=
      ⟨.inches (Scalar.whole 1), .inches (Scalar.whole 1), .inches (Scalar.whole 4),
        .inches (Scalar.whole 2)⟩
    [.generic
      [.text ⟨place, "before", 18, false, .left⟩, .image ⟨place, "a lake"⟩,
        .text ⟨place, "after", 24, true, .right⟩],
      .templated ⟨"Two", "left|right", some "twoContent", some ""⟩]
  topic := some "lakes"

def plainCompiler : Compiler Float Unit where
  canvas := .standard

end DeckPress.Compiler
