import DeckPress.Proofs.MissingPictures
import DeckPress.Proofs.SlideLayers

/-!
# Whatever becomes of the pictures

Pictures are asked for while a slide is drawn, and each reply may depend on all that was asked
before. Yet a reply decides about its own picture alone: whether there is one shape for it or none.
All other shapes are told by the instructions, so two presentations of one drawing differ in their
pictures only.
-/
namespace DeckPress.Presentation

open Attempt

variable {σ τ : Type}

def brought : Reply Picture.Bytes → Option Picture
  | .ok r => if r.isError then none else (Picture.read r.body).toOption
  | .error _ => none

/-- What a picture adds to its slide: a shape if the reply brings a picture, and none otherwise. -/
inductive Brings (q : Drawing.Picture Float) : Reply Picture.Bytes → List Shape → Prop
  | drawn {r : Reply Picture.Bytes} {pic : Picture} {f f' : Frame} (hr : brought r = some pic)
      (hf : frame q.box = .ok f) (hfit : fitted f pic = .ok f') :
      Brings q r [.picture f' pic.format]
  | missed {r : Reply Picture.Bytes} (hr : brought r = none) : Brings q r []

/-- The text box of a text: in the frame of its box, with the lines behind it as paragraphs. -/
structure IsTextBoxOf (t : Drawing.Text Float) (b : TextBox) : Prop where
  made : textBox t = .ok (.text b)
  frame : frame t.box = .ok b.frame
  anchor : b.anchor = t.valign
  written : b.written = linesOf t

/-- What lies behind a text in a frame: a rectangle in the same frame with an opacity of seventy
percent, if the text has a backdrop. The empty text is no color and no backdrop. -/
inductive LiesBehind (t : Drawing.Text Float) (f : Frame) : List Shape → Prop
  | backdrop {color : String} {c : Color} (h : t.backdrop = some color) (hne : color ≠ "")
      (hc : readColor color = .ok c) : LiesBehind t f [.rectangle f c (some 70000)]
  | nothing (h : t.backdrop = none ∨ t.backdrop = some "") : LiesBehind t f []

/-- The shapes that instructions come to, in their order, given the replies for their pictures. -/
inductive Lays : List (Drawing.Instruction Float) → List (Reply Picture.Bytes) → List Shape → Prop
  | nil : Lays [] [] []
  | background {color : String} {c : Color} {is : List (Drawing.Instruction Float)}
      {rs : List (Reply Picture.Bytes)} {ss : List Shape} (hc : readColor color = .ok c)
      (rest : Lays is rs ss) : Lays (.background color :: is) rs ss
  | shape {d : Drawing.Shape Float} {f : Frame} {c : Color} {is : List (Drawing.Instruction Float)}
      {rs : List (Reply Picture.Bytes)} {ss : List Shape} (hf : frame d.box = .ok f)
      (hc : readColor d.color = .ok c) (rest : Lays is rs ss) :
      Lays (.shape d :: is) rs (.rectangle f c none :: ss)
  | picture {q : Drawing.Picture Float} {r : Reply Picture.Bytes} {part : List Shape}
      {is : List (Drawing.Instruction Float)} {rs : List (Reply Picture.Bytes)} {ss : List Shape}
      (hr : Brings q r part) (rest : Lays is rs ss) : Lays (.picture q :: is) (r :: rs) (part ++ ss)
  | text {t : Drawing.Text Float} {b : TextBox} {behind : List Shape}
      {is : List (Drawing.Instruction Float)} {rs : List (Reply Picture.Bytes)} {ss : List Shape}
      (hb : IsTextBoxOf t b) (hbehind : LiesBehind t b.frame behind) (rest : Lays is rs ss) :
      Lays (.text t :: is) rs (behind ++ .text b :: ss)

/-! ## What one instruction adds -/

theorem drawPicture_brings {q : Drawing.Picture Float} {r : Reply Picture.Bytes} {ss : List Shape}
    (h : drawPicture q r = .ok ss) : Brings q r ss := by
  unfold drawPicture at h
  split at h
  · cases h
  · cases h
    exact .missed rfl
  · next r =>
    split at h
    · next herror =>
      cases h
      exact .missed (by rw [brought, if_pos herror])
    · next herror =>
      obtain ⟨f, hf, h⟩ := bind_eq_ok.1 h
      unfold placed at h
      split at h
      · next pic hread =>
        simp only [bind_eq_ok, pure_eq_ok] at h
        obtain ⟨f', hfit, rfl⟩ := h
        exact .drawn (by rw [brought, if_neg herror, hread]; rfl) hf hfit
      · next e hread =>
        split at h
        · cases h
          exact .missed (by rw [brought, if_neg herror, hread]; rfl)
        · cases h

theorem exists_isTextBoxOf {t : Drawing.Text Float} {x : Shape} (h : textBox t = .ok x) :
    ∃ b, x = .text b ∧ IsTextBoxOf t b := by
  obtain ⟨b, rfl, hwritten⟩ := textBox_eq_ok h
  have hmade := h
  simp only [textBox, bind_eq_ok, pure_eq_ok] at h
  obtain ⟨f, hf, ps, -, hb⟩ := h
  cases hb
  exact ⟨_, rfl, hmade, hf, rfl, hwritten⟩

theorem liesBehind_of_backdrop {t : Drawing.Text Float} {f : Frame} {ss : List Shape}
    (hf : frame t.box = .ok f) (h : backdrop t = .ok ss) : LiesBehind t f ss := by
  unfold backdrop at h
  split at h
  · next hnone =>
    cases h
    exact .nothing (.inl hnone)
  · next color hsome =>
    split at h
    · next hempty =>
      cases h
      exact .nothing (.inr (by rw [hsome, String.isEmpty_iff.1 hempty]))
    · next hempty =>
      simp only [bind_eq_ok, pure_eq_ok] at h
      obtain ⟨x, hx, rfl⟩ := h
      obtain ⟨f', c, hf', hc, rfl⟩ := rectangle_eq_ok hx
      cases hf.symm.trans hf'
      exact .backdrop hsome (mt String.isEmpty_iff.2 hempty) hc

theorem exists_drawText {t : Drawing.Text Float} {ss : List Shape} (h : drawText t = .ok ss) :
    ∃ b behind, ss = behind ++ [.text b] ∧ IsTextBoxOf t b ∧ LiesBehind t b.frame behind := by
  simp only [drawText, bind_eq_ok, pure_eq_ok] at h
  obtain ⟨behind, hbehind, x, hx, rfl⟩ := h
  obtain ⟨b, rfl, hb⟩ := exists_isTextBoxOf hx
  exact ⟨b, behind, rfl, hb, liesBehind_of_backdrop hb.frame hbehind⟩

/-! ## What all of them add -/

/-- The pictures of a slide are asked for one after the other. -/
def askedFor (fetch : Fetcher σ) (qs : List (Drawing.Picture Float)) :
    StateM σ (List (Reply Picture.Bytes)) := qs.mapM fun q => fetch q.url

def replies (fetch : Fetcher σ) (ds : List (Drawing.Slide Float)) :
    StateM σ (List (List (Reply Picture.Bytes))) := ds.mapM fun d => askedFor fetch d.pictures

theorem askedFor_append {fetch : Fetcher σ} {qs qs' : List (Drawing.Picture Float)} {u v w : σ}
    {rs rs' : List (Reply Picture.Bytes)} (h : askedFor fetch qs u = (rs, v))
    (h' : askedFor fetch qs' v = (rs', w)) : askedFor fetch (qs ++ qs') u = (rs ++ rs', w) := by
  rw [askedFor, List.mapM_append]
  change ((askedFor fetch qs u).1 ++ (askedFor fetch qs' (askedFor fetch qs u).2).1,
    (askedFor fetch qs' (askedFor fetch qs u).2).2) = _
  rw [h, h']

theorem replies_cons {fetch : Fetcher σ} {d : Drawing.Slide Float}
    {ds : List (Drawing.Slide Float)} {u v w : σ} {rs : List (Reply Picture.Bytes)}
    {rss : List (List (Reply Picture.Bytes))} (h : askedFor fetch d.pictures u = (rs, v))
    (h' : replies fetch ds v = (rss, w)) : replies fetch (d :: ds) u = (rs :: rss, w) := by
  rw [replies, List.mapM_cons]
  change ((askedFor fetch d.pictures u).1 ::
      (replies fetch ds (askedFor fetch d.pictures u).2).1,
    (replies fetch ds (askedFor fetch d.pictures u).2).2) = _
  rw [h, h']

section Run

variable {fetch : Fetcher σ}

/-- One instruction adds shapes whatever is there already, and only a picture is asked for. -/
theorem lays_draw {s s' : Slide} {i : Drawing.Instruction Float} {u v : σ}
    (h : (draw fetch s i).outcome u = (.ok s', v)) :
    ∃ rs part, askedFor fetch i.picture?.toList u = (rs, v) ∧
      s' = ⟨painted s.background i, s.shapes ++ part⟩ ∧
        ∀ is rs' ss, Lays is rs' ss → Lays (i :: is) (rs ++ rs') (part ++ ss) := by
  obtain ⟨part, hpart, rfl, rfl⟩ := draw_eq_ok.1 h
  cases i with
  | background color =>
    simp only [adds, bind_eq_ok, pure_eq_ok] at hpart
    obtain ⟨c, hc, rfl⟩ := hpart
    exact ⟨[], [], rfl, rfl, fun is rs' ss rest => .background hc rest⟩
  | shape d =>
    simp only [adds, bind_eq_ok, pure_eq_ok] at hpart
    obtain ⟨x, hx, rfl⟩ := hpart
    obtain ⟨f, c, hf, hc, rfl⟩ := rectangle_eq_ok hx
    exact ⟨[], _, rfl, rfl, fun is rs' ss rest => .shape hf hc rest⟩
  | picture q =>
    exact ⟨[(fetch q.url u).1], part, rfl, rfl, fun is rs' ss rest =>
      .picture (drawPicture_brings hpart) rest⟩
  | text t =>
    obtain ⟨b, behind, rfl, hb, hbehind⟩ := exists_drawText hpart
    refine ⟨[], _, rfl, rfl, fun is rs' ss rest => ?_⟩
    rw [List.append_assoc]
    exact .text hb hbehind rest

/-- By induction on the instructions: the replies are those of the fetcher, asked for the pictures
in turn, and the slide is what they and the instructions come to. -/
theorem lays_foldlM {is : List (Drawing.Instruction Float)} {s s' : Slide} {u u' : σ}
    (h : (is.foldlM (draw fetch) s).outcome u = (.ok s', u')) :
    ∃ rs ss, askedFor fetch (is.filterMap Drawing.Instruction.picture?) u = (rs, u') ∧
      Lays is rs ss ∧ s' = ⟨is.foldl painted s.background, s.shapes ++ ss⟩ := by
  induction is generalizing s u with
  | nil =>
    rw [List.foldlM_nil, outcome_pure] at h
    cases h
    exact ⟨[], [], rfl, .nil, by rw [List.append_nil]; rfl⟩
  | cons i is ih =>
    rw [List.foldlM_cons, outcome_bind_eq_ok] at h
    obtain ⟨s₁, v, hi, his⟩ := h
    obtain ⟨rs, part, hrs, rfl, hlays⟩ := lays_draw hi
    obtain ⟨rs', ss, hrs', hss, rfl⟩ := ih his
    have hcons : (i :: is).filterMap Drawing.Instruction.picture? =
        i.picture?.toList ++ is.filterMap Drawing.Instruction.picture? := by
      rw [List.filterMap_cons]
      cases i.picture? <;> rfl
    refine ⟨rs ++ rs', part ++ ss, ?_, hlays is rs' ss hss, ?_⟩
    · rw [hcons]
      exact askedFor_append hrs hrs'
    · rw [List.foldl_cons, List.append_assoc]

theorem lays_traverses {ds : List (Drawing.Slide Float)} {ss : List Slide} {u u' : σ}
    (h : Traverses (drawSlide fetch) ds u ss u') :
    ∃ rss, replies fetch ds u = (rss, u') ∧ rss.length = ds.length ∧
      List.Forall₂ (fun x s => s.background = x.1.instructions.foldl painted none ∧
        Lays x.1.instructions x.2 s.shapes) (ds.zip rss) ss := by
  induction h with
  | nil u => exact ⟨[], rfl, rfl, .nil⟩
  | cons head _ ih =>
    obtain ⟨rs, shapes, hrs, hshapes, rfl⟩ := lays_foldlM head
    obtain ⟨rss, hrss, hlength, hslides⟩ := ih
    exact ⟨rs :: rss, replies_cons hrs hrss, by simp [hlength], .cons ⟨rfl, hshapes⟩ hslides⟩

end Run

/-! ## Two presentations of one drawing -/

def Shape.isPicture : Shape → Bool
  | picture _ _ => true
  | _ => false

def Slide.others (s : Slide) : List Shape := s.shapes.filter fun x => !x.isPicture

theorem IsTextBoxOf.unique {t : Drawing.Text Float} {b b' : TextBox} (h : IsTextBoxOf t b)
    (h' : IsTextBoxOf t b') : b = b' := by
  cases h.made.symm.trans h'.made
  rfl

theorem LiesBehind.unique {t : Drawing.Text Float} {f : Frame} {ss ss' : List Shape}
    (h : LiesBehind t f ss) (h' : LiesBehind t f ss') : ss = ss' := by
  cases h with
  | backdrop hsome hne hc =>
    cases h' with
    | backdrop hsome' _ hc' =>
      cases hsome.symm.trans hsome'
      cases hc.symm.trans hc'
      rfl
    | nothing hnone =>
      rw [hsome] at hnone
      simp [hne] at hnone
  | nothing hnone =>
    cases h' with
    | backdrop hsome hne _ =>
      rw [hsome] at hnone
      simp [hne] at hnone
    | nothing _ => rfl

theorem Brings.filter_eq_nil {q : Drawing.Picture Float} {r : Reply Picture.Bytes}
    {part : List Shape} (h : Brings q r part) : (part.filter fun x => !x.isPicture) = [] := by
  cases h <;> rfl

/-- Whatever the replies are, the instructions come to the same shapes beside the pictures. -/
theorem Lays.filter_eq {is : List (Drawing.Instruction Float)}
    {rs rs' : List (Reply Picture.Bytes)} {ss ss' : List Shape} (h : Lays is rs ss)
    (h' : Lays is rs' ss') :
    (ss.filter fun x => !x.isPicture) = ss'.filter fun x => !x.isPicture := by
  induction h generalizing rs' ss' with
  | nil =>
    cases h'
    rfl
  | background _ _ ih =>
    cases h' with
    | background _ rest => exact ih rest
  | shape hf hc _ ih =>
    cases h' with
    | shape hf' hc' rest =>
      cases hf.symm.trans hf'
      cases hc.symm.trans hc'
      rw [List.filter_cons, List.filter_cons, ih rest]
  | picture hr _ ih =>
    cases h' with
    | picture hr' rest =>
      rw [List.filter_append, List.filter_append, hr.filter_eq_nil, hr'.filter_eq_nil, ih rest]
  | text hb hbehind _ ih =>
    cases h' with
    | text hb' hbehind' rest =>
      cases hb.unique hb'
      cases hbehind.unique hbehind'
      rw [List.filter_append, List.filter_append, List.filter_cons, List.filter_cons, ih rest]

theorem Lays.exists_readColor {is : List (Drawing.Instruction Float)}
    {rs : List (Reply Picture.Bytes)} {ss : List Shape} (h : Lays is rs ss) {color : String}
    (hcolor : .background color ∈ is) : ∃ c, readColor color = .ok c := by
  induction h with
  | nil => cases hcolor
  | background hc _ ih =>
    rcases List.mem_cons.1 hcolor with heq | hcolor
    · cases heq
      exact ⟨_, hc⟩
    · exact ih hcolor
  | shape _ _ _ ih => exact ih ((List.mem_cons.1 hcolor).resolve_left nofun)
  | picture _ _ ih => exact ih ((List.mem_cons.1 hcolor).resolve_left nofun)
  | text _ _ _ ih => exact ih ((List.mem_cons.1 hcolor).resolve_left nofun)

/-- The presentation is what the drawing comes to when its pictures are asked for in turn: each
slide has the shapes that its instructions and the replies for its own pictures come to. -/
def LaysOut (fetch : Fetcher σ) (u u' : σ) (g : Drawing Float) (p : Presentation) : Prop :=
  ∃ rss, replies fetch g.slides u = (rss, u') ∧ rss.length = g.slides.length ∧
    List.Forall₂ (fun x s => Lays x.1.instructions x.2 s.shapes) (g.slides.zip rss) p.slides

section Presented

variable {fetch : Fetcher σ} {fetch' : Fetcher τ} {g : Drawing Float} {p p' : Presentation}
  {u u' : σ} {v v' : τ}

theorem laysOut_ofDrawing (h : (ofDrawing fetch g).outcome u = (.ok p, u')) :
    LaysOut fetch u u' g p := by
  obtain ⟨rss, hrss, hlength, hslides⟩ := lays_traverses (ofDrawing_eq_ok.1 h).2.2
  exact ⟨rss, hrss, hlength, hslides.imp fun _ _ hlays => hlays.2⟩

theorem forall₂_lays (h : (ofDrawing fetch g).outcome u = (.ok p, u')) :
    List.Forall₂ (fun d s => s.background = d.instructions.foldl painted none ∧
      ∃ rs, Lays d.instructions rs s.shapes) g.slides p.slides := by
  obtain ⟨rss, -, hlength, hslides⟩ := lays_traverses (ofDrawing_eq_ok.1 h).2.2
  rw [← List.map_fst_zip (Nat.le_of_eq hlength.symm), List.forall₂_map_left_iff]
  exact hslides.imp fun x s hlays => ⟨hlays.1, x.2, hlays.2⟩

/-- A compiled text has the background of its slide behind it, if anything; and since that is drawn,
it is a color. -/
theorem backdrop_ne_empty {ρ : Type} {c : Compiler Float ρ} {d : Deck Float} {t t' : ρ}
    (hg : (c.compile d).outcome t = (.ok g, t'))
    (h : (ofDrawing fetch g).outcome u = (.ok p, u')) {s : Drawing.Slide Float} (hs : s ∈ g.slides)
    {x : Drawing.Text Float} (hx : x ∈ s.texts) : x.backdrop ≠ some "" := by
  obtain ⟨index, l, refs, hlength, rfl⟩ := Compiler.compile_layers hg hs
  obtain ⟨color, hcolor, htexts⟩ := l.backdrops c.canvas c.palette index d.slides.length hlength
  have hdrawn : (.background color : Drawing.Instruction Float) ∈
      l.drawn c.canvas c.palette index d.slides.length refs := by
    obtain ⟨i, hi, hbackground⟩ := List.mem_filterMap.1 (hcolor ▸ List.mem_singleton_self color)
    cases i with
    | background _ =>
      cases hbackground
      exact hi
    | _ => cases hbackground
  obtain ⟨_, -, -, rs, hlays⟩ := exists_of_forall₂_left (forall₂_lays h) hs
  obtain ⟨k, hk⟩ := hlays.exists_readColor hdrawn
  -- The empty text would be the background, but it is read as no color.
  intro hempty
  cases (htexts x hx).2 "" hempty
  cases hk

/-- Two presentations of one drawing have the same slides but for their pictures, whatever the
replies to these are and whatever they depend on. Each slide has, in the order of its instructions,
a rectangle for a shape, one picture for a picture that is had and none for any other, and for a
text its text box, with a rectangle of the same frame before it if the text has a backdrop. In a
compiled drawing that is any backdrop at all, since none is the empty text there. -/
theorem pictures_leave_the_rest (h : (ofDrawing fetch g).outcome u = (.ok p, u'))
    (h' : (ofDrawing fetch' g).outcome v = (.ok p', v')) :
    (p.width = p'.width ∧ p.height = p'.height ∧
      List.Forall₂ (fun s s' => s.background = s'.background ∧ s.others = s'.others)
        p.slides p'.slides) ∧
      LaysOut fetch u u' g p ∧ LaysOut fetch' v v' g p' ∧
      ∀ {ρ : Type} (c : Compiler Float ρ) (d : Deck Float) (t t' : ρ),
        (c.compile d).outcome t = (.ok g, t') →
          ∀ s ∈ g.slides, ∀ x ∈ s.texts, x.backdrop ≠ some "" := by
  obtain ⟨hw, hh, -⟩ := ofDrawing_eq_ok.1 h
  obtain ⟨hw', hh', -⟩ := ofDrawing_eq_ok.1 h'
  refine ⟨⟨Except.ok.inj (hw.symm.trans hw'), Except.ok.inj (hh.symm.trans hh'), ?_⟩,
    laysOut_ofDrawing h, laysOut_ofDrawing h', ?_⟩
  · refine forall₂_of_common (forall₂_lays h) (forall₂_lays h') ?_
    rintro d s s' ⟨hbackground, rs, hlays⟩ ⟨hbackground', rs', hlays'⟩
    exact ⟨hbackground.trans hbackground'.symm, hlays.filter_eq hlays'⟩
  · intro ρ c d t t' hg s hs x hx
    exact backdrop_ne_empty hg h hs hx

end Presented

/-- Two pictures with one address, and a text on them. -/
def twinDeck : Deck Float where
  slides :=
    let place (x y w h : Nat) : Region Float :=
      ⟨.inches (Scalar.whole x), .inches (Scalar.whole y), .inches (Scalar.whole w),
        .inches (Scalar.whole h)⟩
    [.generic
      [.text ⟨place 1 1 4 1, "on it", 18, false, .left⟩,
        .image ⟨place 0 0 10 6, "https://example.com/a.jpg"⟩,
        .image ⟨place 6 3 2 2, "https://example.com/a.jpg"⟩,
        .text ⟨place 1 7 4 1, "below", 18, false, .left⟩]]
  topic := none

def onlyOnce : Fetcher Nat := fun _ n =>
  (if n = 0 then .ok ⟨200, dot⟩ else .error (.transport "down"), n + 1)

theorem pictures_leave_the_rest_twinDeck :
    ∃ g t p p', (Compiler.plainCompiler.compile twinDeck).outcome () = (.ok g, t) ∧
      (ofDrawing onlyOnce g).outcome 0 = (.ok p, 2) ∧
      (ofDrawing noPictures g).outcome () = (.ok p', ()) ∧
      p.slides.map (·.shapes.length) = [5] ∧ p'.slides.map (·.shapes.length) = [4] ∧
      List.Forall₂ (fun s s' => s.background = s'.background ∧ s.others = s'.others)
        p.slides p'.slides ∧
      LaysOut onlyOnce 0 2 g p ∧ LaysOut noPictures () () g p' ∧
      ∀ s ∈ g.slides, ∀ x ∈ s.texts, x.backdrop ≠ some "" := by
  have hg : ((Compiler.plainCompiler.compile twinDeck).outcome ()).1.toOption.any (fun g =>
      ((ofDrawing onlyOnce g).outcome 0).1.toOption.any (fun p =>
        p.slides.map (·.shapes.length) == [5]) &&
      ((ofDrawing onlyOnce g).outcome 0).2 == 2 &&
      ((ofDrawing noPictures g).outcome ()).1.toOption.any (fun p =>
        p.slides.map (·.shapes.length) == [4])) = true := by decide +kernel
  obtain ⟨g, t, hg, hruns⟩ := exists_of_any hg
  simp only [Bool.and_eq_true] at hruns
  obtain ⟨⟨honce, hstate⟩, hnone⟩ := hruns
  obtain ⟨p, u, hp, hshapes⟩ := exists_of_any honce
  obtain ⟨p', u', hp', hshapes'⟩ := exists_of_any hnone
  have hu : u = 2 := by simpa [hp] using hstate
  subst hu
  obtain ⟨⟨-, -, hsame⟩, hlays, hlays', hbackdrops⟩ := pictures_leave_the_rest hp hp'
  exact ⟨g, t, p, p', hg, hp, hp', eq_of_beq hshapes, eq_of_beq hshapes', hsame, hlays, hlays',
    hbackdrops Compiler.plainCompiler twinDeck () t hg⟩

end DeckPress.Presentation
