import DeckPress.Proofs.PresentationRun

/-!
# What instructions add to a slide

An instruction adds some shapes to a slide. Which ones depends neither on what is there already nor
on the state, but for a picture on the reply to its address. So a drawing is presented if and only
if each of its instructions has something to add, and a slide is all that its instructions add, in
their order.
-/
namespace DeckPress.Presentation

open Attempt

variable {σ : Type}

/-- The shapes that an instruction adds, given the replies for the addresses of pictures. -/
def adds (replies : String → Reply Picture.Bytes) :
    Drawing.Instruction Float → Except Fault (List Shape)
  | .background color => return (fun _ => []) (← readColor color)
  | .shape d => return [← rectangle d.box d.color none]
  | .text t => drawText t
  | .picture p => drawPicture p (replies p.url)

def painted (background : Option Color) : Drawing.Instruction Float → Option Color
  | .background color => (readColor color).toOption
  | _ => background

def repliesIn (fetch : Fetcher σ) (u : σ) (url : String) : Reply Picture.Bytes := (fetch url u).1

def asked (fetch : Fetcher σ) (u : σ) : Drawing.Instruction Float → σ
  | .picture p => (fetch p.url u).2
  | _ => u

theorem draw_eq_ok {fetch : Fetcher σ} {s s' : Slide} {i : Drawing.Instruction Float} {u u' : σ} :
    (draw fetch s i).outcome u = (.ok s', u') ↔
      ∃ ss, adds (repliesIn fetch u) i = .ok ss ∧
        s' = ⟨painted s.background i, s.shapes ++ ss⟩ ∧ u' = asked fetch u i := by
  cases i with
  | background color =>
    rw [draw_background_eq_ok]
    simp only [adds, bind_eq_ok, pure_eq_ok]
    constructor
    · rintro ⟨c, hc, rfl, rfl⟩
      refine ⟨[], ⟨c, hc, rfl⟩, ?_, rfl⟩
      rw [painted, hc, List.append_nil]
      rfl
    · rintro ⟨_, ⟨c, hc, rfl⟩, rfl, rfl⟩
      refine ⟨c, hc, ?_, rfl⟩
      rw [painted, hc, List.append_nil]
      rfl
  | shape d =>
    rw [draw_shape_eq_ok]
    simp only [adds, bind_eq_ok, pure_eq_ok]
    constructor
    · rintro ⟨r, hr, rfl, rfl⟩
      exact ⟨_, ⟨r, hr, rfl⟩, rfl, rfl⟩
    · rintro ⟨_, ⟨r, hr, rfl⟩, rfl, rfl⟩
      exact ⟨r, hr, rfl, rfl⟩
  | text t => exact draw_text_eq_ok
  | picture p => exact draw_picture_eq_ok

section Run

/-- The fetcher replies so that the instructions add these shapes, in every state. -/
def Gives (fetch : Fetcher σ) (a : Drawing.Instruction Float → Except Fault (List Shape)) : Prop :=
  ∀ u i, adds (repliesIn fetch u) i = a i

variable {fetch : Fetcher σ} {a : Drawing.Instruction Float → Except Fault (List Shape)}

theorem draw_returns (ha : Gives fetch a) {i : Drawing.Instruction Float}
    (h : ∃ ss, a i = .ok ss) (s : Slide) : (draw fetch s i).Returns := by
  intro u
  obtain ⟨ss, hss⟩ := h
  exact ⟨_, _, draw_eq_ok.2 ⟨ss, (ha u i).trans hss, rfl, rfl⟩⟩

def addedTo (s : Slide) (is : List (Drawing.Instruction Float)) (parts : List (List Shape)) :
    Slide :=
  ⟨is.foldl painted s.background, s.shapes ++ parts.flatten⟩

theorem foldlM_draw_eq_ok (ha : Gives fetch a) {is : List (Drawing.Instruction Float)}
    {s s' : Slide} {u u' : σ} (h : (is.foldlM (draw fetch) s).outcome u = (.ok s', u')) :
    ∃ parts, List.Forall₂ (fun i ss => a i = .ok ss) is parts ∧ s' = addedTo s is parts := by
  induction is generalizing s u with
  | nil =>
    rw [List.foldlM_nil, outcome_pure] at h
    cases h
    refine ⟨[], .nil, ?_⟩
    rw [addedTo, List.flatten_nil, List.append_nil]
    rfl
  | cons i is ih =>
    rw [List.foldlM_cons, outcome_bind_eq_ok] at h
    obtain ⟨s₁, u₁, hi, his⟩ := h
    obtain ⟨ss, hss, rfl, -⟩ := draw_eq_ok.1 hi
    obtain ⟨parts, hparts, rfl⟩ := ih his
    refine ⟨ss :: parts, .cons ((ha u i).symm.trans hss) hparts, ?_⟩
    rw [addedTo, addedTo, List.flatten_cons, List.append_assoc]
    rfl

theorem foldlM_draw_returns (ha : Gives fetch a) {is : List (Drawing.Instruction Float)}
    (h : ∀ i ∈ is, ∃ ss, a i = .ok ss) (s : Slide) : (is.foldlM (draw fetch) s).Returns := by
  induction is generalizing s with
  | nil => exact returns_pure s
  | cons i is ih =>
    rw [List.foldlM_cons]
    refine (draw_returns ha (h i List.mem_cons_self) s).bind fun s₁ => ?_
    exact ih (fun j hj => h j (List.mem_cons_of_mem i hj)) s₁

/-- The slide is all that the instructions add, in their order. -/
def IsDrawn (a : Drawing.Instruction Float → Except Fault (List Shape)) (d : Drawing.Slide Float)
    (s : Slide) : Prop :=
  ∃ parts, List.Forall₂ (fun i ss => a i = .ok ss) d.instructions parts ∧
    s = addedTo {} d.instructions parts

theorem isDrawn_ofDrawing (ha : Gives fetch a) {g : Drawing Float} {p : Presentation} {u u' : σ}
    (h : (ofDrawing fetch g).outcome u = (.ok p, u')) :
    List.Forall₂ (IsDrawn a) g.slides p.slides := by
  refine (ofDrawing_eq_ok.1 h).2.2.forall₂.imp fun d s hs => ?_
  obtain ⟨v, v', hs⟩ := hs
  exact foldlM_draw_eq_ok ha hs

def HasSize (c : Canvas Float) : Prop :=
  (∃ w, slideSize c.width = .ok w) ∧ ∃ h, slideSize c.height = .ok h

/-- A drawing is presented if and only if its size is one of slides and every instruction has
something to add. -/
theorem ofDrawing_returns_iff (ha : Gives fetch a) (g : Drawing Float) (u : σ) :
    (∃ p u', (ofDrawing fetch g).outcome u = (.ok p, u')) ↔
      HasSize g.canvas ∧ ∀ d ∈ g.slides, ∀ i ∈ d.instructions, ∃ ss, a i = .ok ss := by
  constructor
  · rintro ⟨p, u', h⟩
    obtain ⟨hw, hh, -⟩ := ofDrawing_eq_ok.1 h
    refine ⟨⟨⟨_, hw⟩, _, hh⟩, fun d hd i hi => ?_⟩
    obtain ⟨s, -, parts, hparts, -⟩ := exists_of_forall₂_left (isDrawn_ofDrawing ha h) hd
    obtain ⟨ss, -, hss⟩ := exists_of_forall₂_left hparts hi
    exact ⟨ss, hss⟩
  · rintro ⟨⟨⟨w, hw⟩, h, hh⟩, hadd⟩
    obtain ⟨ss, u', hss⟩ := returns_mapM (f := drawSlide fetch)
      (fun d hd => foldlM_draw_returns ha (hadd d hd) {}) u
    exact ⟨⟨w, h, ss⟩, u', ofDrawing_eq_ok.2 ⟨hw, hh, outcome_mapM_eq_ok.1 hss⟩⟩

end Run

end DeckPress.Presentation
