import DeckPress.Presentation
import DeckPress.Proofs.Assembly
import DeckPress.Proofs.EscapedText

/-!
# How drawings are presented

Every instruction only adds to what is on a slide already. What it adds is told once for each kind
of instruction; from this it follows which text boxes a slide has in the end.
-/
namespace DeckPress

/-- The paragraphs of a text box, as they are written. -/
def TextBox.written (b : TextBox) : List String := b.paragraphs.map Paragraph.text

namespace Presentation

open Attempt

variable {σ : Type}

def Shape.textBox? : Shape → Option TextBox
  | text b => some b
  | _ => none

def writtenIn (ss : List Shape) : List (List String) :=
  (ss.filterMap Shape.textBox?).map TextBox.written

def Slide.written (s : Slide) : List (List String) := writtenIn s.shapes

theorem writtenIn_append (ss ss' : List Shape) :
    writtenIn (ss ++ ss') = writtenIn ss ++ writtenIn ss' := by
  simp [writtenIn]

/-- The lines behind the escaped text of an instruction. -/
def linesOf (t : Drawing.Text Float) : List String :=
  (Text.lines t.text.toList).map String.ofList

theorem draw_background_eq_ok {fetch : Fetcher σ} {s s' : Slide} {color : String} {u u' : σ} :
    (draw fetch s (.background color)).outcome u = (.ok s', u') ↔
      ∃ c, readColor color = .ok c ∧ s' = { s with background := some c } ∧ u' = u :=
  outcome_ofExcept_bind_eq_ok

theorem draw_shape_eq_ok {fetch : Fetcher σ} {s s' : Slide} {d : Drawing.Shape Float} {u u' : σ} :
    (draw fetch s (.shape d)).outcome u = (.ok s', u') ↔
      ∃ r, rectangle d.box d.color none = .ok r ∧ s' = { s with shapes := s.shapes ++ [r] } ∧
        u' = u :=
  outcome_ofExcept_bind_eq_ok

theorem draw_text_eq_ok {fetch : Fetcher σ} {s s' : Slide} {t : Drawing.Text Float} {u u' : σ} :
    (draw fetch s (.text t)).outcome u = (.ok s', u') ↔
      ∃ ss, drawText t = .ok ss ∧ s' = { s with shapes := s.shapes ++ ss } ∧ u' = u :=
  outcome_ofExcept_bind_eq_ok

theorem draw_picture_eq_ok {fetch : Fetcher σ} {s s' : Slide} {p : Drawing.Picture Float}
    {u u' : σ} :
    (draw fetch s (.picture p)).outcome u = (.ok s', u') ↔
      ∃ ss, drawPicture p (fetch p.url u).1 = .ok ss ∧
        s' = { s with shapes := s.shapes ++ ss } ∧ u' = (fetch p.url u).2 := by
  unfold draw
  rw [outcome_bind_eq_ok]
  constructor
  · rintro ⟨r, t, hr, h⟩
    cases hr
    exact outcome_ofExcept_bind_eq_ok.1 h
  · intro h
    exact ⟨_, _, rfl, outcome_ofExcept_bind_eq_ok.2 h⟩

theorem rectangle_eq_ok {b : Box Float} {color : String} {opacity : Option Nat} {r : Shape}
    (h : rectangle b color opacity = .ok r) :
    ∃ f c, frame b = .ok f ∧ readColor color = .ok c ∧ r = .rectangle f c opacity := by
  simp only [rectangle, bind_eq_ok, pure_eq_ok] at h
  obtain ⟨f, hf, c, hc, rfl⟩ := h
  exact ⟨f, c, hf, hc, rfl⟩

theorem drawPicture_eq_ok {p : Drawing.Picture Float} {r : Reply Picture.Bytes} {ss : List Shape}
    (h : drawPicture p r = .ok ss) : ss = [] ∨ ∃ f k, ss = [.picture f k] := by
  unfold drawPicture at h
  split at h
  · cases h
  · cases h
    exact .inl rfl
  · split at h
    · cases h
      exact .inl rfl
    · obtain ⟨f, -, h⟩ := bind_eq_ok.1 h
      unfold placed at h
      split at h
      · simp only [bind_eq_ok, pure_eq_ok] at h
        obtain ⟨f, -, rfl⟩ := h
        exact .inr ⟨f, _, rfl⟩
      · split at h
        · cases h
          exact .inl rfl
        · cases h

theorem textBox_eq_ok {t : Drawing.Text Float} {r : Shape} (h : textBox t = .ok r) :
    ∃ b, r = .text b ∧ b.written = linesOf t := by
  simp only [textBox, bind_eq_ok, pure_eq_ok, mapM_eq_ok] at h
  obtain ⟨f, -, ps, hps, rfl⟩ := h
  refine ⟨_, rfl, (forall₂_eq_iff_map_eq.1 (hps.imp fun line p hp => ?_)).symm⟩
  unfold paragraph at hp
  split at hp
  · cases hp
  · simp only [bind_eq_ok, pure_eq_ok] at hp
    obtain ⟨_, -, _, -, rfl⟩ := hp
    rfl

/-- What lies behind a text is a rectangle, if there is anything. -/
theorem writtenIn_backdrop {t : Drawing.Text Float} {ss : List Shape} (h : backdrop t = .ok ss) :
    writtenIn ss = [] := by
  unfold backdrop at h
  split at h
  · cases h
    rfl
  · split at h
    · cases h
      rfl
    · simp only [bind_eq_ok, pure_eq_ok] at h
      obtain ⟨r, hr, rfl⟩ := h
      obtain ⟨_, _, -, -, rfl⟩ := rectangle_eq_ok hr
      rfl

theorem writtenIn_drawText {t : Drawing.Text Float} {ss : List Shape} (h : drawText t = .ok ss) :
    writtenIn ss = [linesOf t] := by
  simp only [drawText, bind_eq_ok, pure_eq_ok] at h
  obtain ⟨behind, hbehind, r, hr, rfl⟩ := h
  obtain ⟨b, rfl, hb⟩ := textBox_eq_ok hr
  rw [writtenIn_append, writtenIn_backdrop hbehind, List.nil_append, ← hb]
  rfl

/-- One instruction adds a text box if it is a text, and none otherwise. -/
theorem written_draw {fetch : Fetcher σ} {s s' : Slide} {i : Drawing.Instruction Float} {u u' : σ}
    (h : (draw fetch s i).outcome u = (.ok s', u')) :
    s'.written = s.written ++ (i.text?.map linesOf).toList := by
  cases i with
  | background color =>
    obtain ⟨c, -, rfl, -⟩ := draw_background_eq_ok.1 h
    exact (List.append_nil _).symm
  | shape d =>
    obtain ⟨r, hr, rfl, -⟩ := draw_shape_eq_ok.1 h
    obtain ⟨_, _, -, -, rfl⟩ := rectangle_eq_ok hr
    exact writtenIn_append ..
  | picture p =>
    obtain ⟨ss, hs, rfl, -⟩ := draw_picture_eq_ok.1 h
    rw [Slide.written, writtenIn_append]
    obtain rfl | ⟨f, k, rfl⟩ := drawPicture_eq_ok hs <;> rfl
  | text t =>
    obtain ⟨ss, hs, rfl, -⟩ := draw_text_eq_ok.1 h
    rw [Slide.written, writtenIn_append, writtenIn_drawText hs]
    rfl

theorem written_foldlM_draw {fetch : Fetcher σ} {is : List (Drawing.Instruction Float)}
    {s s' : Slide} {u u' : σ} (h : (is.foldlM (draw fetch) s).outcome u = (.ok s', u')) :
    s'.written = s.written ++ (is.filterMap Drawing.Instruction.text?).map linesOf := by
  induction is generalizing s u with
  | nil =>
    rw [List.foldlM_nil, outcome_pure] at h
    cases h
    exact (List.append_nil _).symm
  | cons i is ih =>
    rw [List.foldlM_cons, outcome_bind_eq_ok] at h
    obtain ⟨s₁, u₁, hi, his⟩ := h
    rw [ih his, written_draw hi, List.append_assoc, List.filterMap_cons]
    cases i.text? <;> rfl

/-- A presented slide has a text box for every text that is drawn, in order. -/
theorem written_drawSlide {fetch : Fetcher σ} {d : Drawing.Slide Float} {s : Slide} {u u' : σ}
    (h : (drawSlide fetch d).outcome u = (.ok s, u')) : s.written = d.texts.map linesOf :=
  written_foldlM_draw h

theorem ofDrawing_eq_ok {fetch : Fetcher σ} {d : Drawing Float} {p : Presentation} {u u' : σ} :
    (ofDrawing fetch d).outcome u = (.ok p, u') ↔
      slideSize d.canvas.width = .ok p.width ∧ slideSize d.canvas.height = .ok p.height ∧
        Traverses (drawSlide fetch) d.slides u p.slides u' := by
  simp only [ofDrawing, outcome_bind_eq_ok, outcome_ofExcept, outcome_mapM_eq_ok, outcome_pure,
    Prod.mk.injEq, Except.ok.injEq]
  constructor
  · rintro ⟨w, _, ⟨hw, rfl⟩, h, _, ⟨hh, rfl⟩, ss, _, hs, rfl, rfl⟩
    exact ⟨hw, hh, hs⟩
  · rintro ⟨hw, hh, hs⟩
    exact ⟨_, _, ⟨hw, rfl⟩, _, _, ⟨hh, rfl⟩, _, _, hs, rfl, rfl⟩

theorem length_ofDrawing {fetch : Fetcher σ} {d : Drawing Float} {p : Presentation} {u u' : σ}
    (h : (ofDrawing fetch d).outcome u = (.ok p, u')) : p.slides.length = d.slides.length :=
  (ofDrawing_eq_ok.1 h).2.2.forall₂.length_eq.symm

theorem written_ofDrawing {fetch : Fetcher σ} {d : Drawing Float} {p : Presentation} {u u' : σ}
    (h : (ofDrawing fetch d).outcome u = (.ok p, u')) :
    p.slides.map Slide.written = d.slides.map fun s => s.texts.map linesOf := by
  have hs := (ofDrawing_eq_ok.1 h).2.2.forall₂
  refine (forall₂_eq_iff_map_eq.1 (hs.imp fun a b hab => ?_)).symm
  obtain ⟨_, _, hab⟩ := hab
  exact (written_drawSlide hab).symm

end Presentation

end DeckPress
