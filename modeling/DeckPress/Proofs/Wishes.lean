import DeckPress.Proofs.Compilation
import DeckPress.Proofs.Rounds

/-!
# The images that a deck wishes for

The images of a deck are listed by slides, and on a slide by objects, with all that is known about
them before anything is looked up. A compilation goes round its slides: it looks up the images of
each and then sees whether there is room for it. Where no slide fails to be assembled, it does to
its services what a round through the list of images does, and it fails where that round fails.
-/
namespace DeckPress

open Attempt

/-- An image as a deck asks for it: on which slide and where, by which text of its own, what stands
in for an empty one, and what the slide says. -/
structure Wish where
  slide : Nat
  place : Need.Place
  own : String
  standIn : String
  text : String
deriving Repr, DecidableEq

namespace Wish

def query (w : Wish) : String := if w.own = "" then w.standIn else w.own

def IsDirect (w : Wish) : Prop := Image.isDirectUrl w.query = true

instance (w : Wish) : Decidable w.IsDirect := inferInstanceAs (Decidable (_ = true))

def need (w : Wish) : Need := ⟨w.place, w.query, w.text⟩

def request (w : Wish) : Image.Request := ⟨w.query, w.slide, w.text⟩

/-- What a resolver is to be asked for some wishes: all that are not for an address. -/
def requests (ws : List Wish) : List Image.Request := (ws.filter fun w => !w.IsDirect).map request

theorem requests_cons_of_direct {w : Wish} (h : w.IsDirect) (ws : List Wish) :
    requests (w :: ws) = requests ws := by
  rw [requests, List.filter_cons_of_neg (by simpa using h)]
  rfl

theorem requests_cons {w : Wish} (h : ¬w.IsDirect) (ws : List Wish) :
    requests (w :: ws) = w.request :: requests ws := by
  rw [requests, List.filter_cons_of_pos (by simpa using h)]
  rfl

end Wish

/-- The topic of a deck; without one, something else. -/
def topicOr (topic : Option String) (other : String) : String :=
  match topic with
  | some t => if t = "" then other else t
  | none => other

variable {α σ : Type}

namespace Slide

/-- The images among some objects, with the positions that they have among all of them. -/
def objectWishes (topic : Option String) (index : Nat) (text : String)
    (objects : List (SlideObject α × Nat)) : List Wish :=
  objects.filterMap fun o => o.1.image?.map fun r =>
    ⟨index, .object o.2, r.urlOrQuery, topicOr topic "", text⟩

def wishes (topic : Option String) (index : Nat) : Slide α → List Wish
  | .generic objects =>
    let texts := (objects.filterMap SlideObject.text?).map TextRegion.text
    objectWishes topic index (" ".intercalate texts) objects.zipIdx
  | .templated s =>
    s.imageQuery.toList.map fun q =>
      ⟨index, .query, q, topicOr topic s.title, s.title ++ " " ++ s.content⟩

end Slide

namespace Deck

/-- The images of a deck, by slides, and on a slide by objects. -/
def wishes (d : Deck α) : List Wish := d.slides.zipIdx.flatMap fun p => p.1.wishes d.topic p.2

def requests (d : Deck α) : List Image.Request := Wish.requests d.wishes

end Deck

theorem orElse_eq (a b : String) : orElse a b = if a = "" then b else a := by
  simp only [orElse, String.isEmpty_iff]

theorem orElse_getD_topic (topic : Option String) (other : String) :
    orElse (topic.getD "") other = topicOr topic other := by
  cases topic <;> simp [orElse_eq, topicOr]

theorem getD_topic (topic : Option String) : topic.getD "" = topicOr topic "" := by
  cases topic with
  | none => rfl
  | some t => by_cases h : t = "" <;> simp [topicOr, h]

namespace Slide

theorem objectWishes_eq_needs (topic : Option String) (index : Nat) (text : String)
    (position : Nat) (objects : List (SlideObject α)) :
    (objectWishes topic index text (objects.zipIdx position)).map (fun w => (w.slide, w.need)) =
      (objectNeeds (topic.getD "") text position objects).map ((index, ·)) := by
  induction objects generalizing position with
  | nil => rfl
  | cons o os ih =>
    cases o with
    | text r => exact ih (position + 1)
    | image r =>
      have hquery : (if r.urlOrQuery = "" then topicOr topic "" else r.urlOrQuery) =
          orElse r.urlOrQuery (topic.getD "") := by rw [orElse_eq, getD_topic]
      rw [objectNeeds, List.map_cons, ← ih (position + 1), ← hquery]
      rfl

/-- The wishes of a slide are its needs. -/
theorem wishes_eq_needs (topic : Option String) (index : Nat) (s : Slide α) :
    (s.wishes topic index).map (fun w => (w.slide, w.need)) =
      (s.needs topic).map ((index, ·)) := by
  cases s with
  | generic objects => exact objectWishes_eq_needs topic index _ 0 objects
  | templated s =>
    rw [needs, templatedNeeds]
    cases hq : s.imageQuery with
    | none => simp [wishes, hq]
    | some q =>
      simp only [wishes, hq, Option.toList_some, List.map_cons, List.map_nil, Wish.need,
        Wish.query, orElse_getD_topic, orElse_eq q]

theorem slide_of_mem_wishes {topic : Option String} {index : Nat} {s : Slide α} {w : Wish}
    (h : w ∈ s.wishes topic index) : w.slide = index := by
  have hneed : (w.slide, w.need) ∈ (s.needs topic).map ((index, ·)) := by
    rw [← wishes_eq_needs]
    exact List.mem_map_of_mem h
  obtain ⟨_, _, heq⟩ := List.mem_map.1 hneed
  exact (Prod.mk.inj heq).1.symm

end Slide

namespace Compiler

def lookUp (c : Compiler α σ) (w : Wish) : Attempt Fault σ Image.Reference :=
  c.resolve w.slide w.need

def attend (c : Compiler α σ) (w : Wish) : Attempt Fault σ Unit := effect (c.lookUp w)

theorem lookUp_of_direct (c : Compiler α σ) {w : Wish} (h : w.IsDirect) :
    c.lookUp w = pure ⟨Text.trimmed w.query, false⟩ :=
  if_pos h

theorem lookUp_of_none {c : Compiler α σ} {w : Wish} (h : ¬w.IsDirect) (hr : c.resolver = none) :
    c.lookUp w = .ofExcept (c.unresolved w.slide w.need noResolver) := by
  have hneed : ¬w.need.isDirect = true := h
  rw [lookUp, resolve, if_neg hneed, hr]

theorem lookUp_of_some {c : Compiler α σ} {r : Image.Resolver σ} {w : Wish} (h : ¬w.IsDirect)
    (hr : c.resolver = some r) :
    c.lookUp w = (r w.request).adapt Fault.search >>= fun a =>
      Attempt.ofExcept (c.ofAnswer w.slide w.need a) := by
  have hneed : ¬w.need.isDirect = true := h
  rw [lookUp, resolve, if_neg hneed, hr]
  rfl

/-- What becomes of a wish, after what a request came to. -/
def conclude (c : Compiler α σ) (w : Wish) :
    Except Image.Search.Fault Image.Answer → Except Fault Image.Reference
  | .error f => .error (.search f)
  | .ok a => c.ofAnswer w.slide w.need a

/-- The resolver is asked once, and what that comes to decides. -/
theorem outcome_lookUp {c : Compiler α σ} {r : Image.Resolver σ} {w : Wish} (h : ¬w.IsDirect)
    (hr : c.resolver = some r) {t t' : σ} {a : Except Image.Search.Fault Image.Answer}
    (ha : (r w.request).outcome t = (a, t')) :
    (c.lookUp w).outcome t = (c.conclude w a, t') := by
  rw [lookUp_of_some h hr, outcome_bind, outcome_adapt, ha]
  cases a <;> rfl

theorem unresolved_ne_refused (c : Compiler α σ) (slide : Nat) (n : Need) (reason : String)
    (e : Validation.Refusal) : c.unresolved slide n reason ≠ .error (.refused e) := by
  unfold unresolved
  split <;> exact nofun

theorem outcome_lookUp_ne_refused (c : Compiler α σ) (w : Wish) (e : Validation.Refusal)
    (t t' : σ) : (c.lookUp w).outcome t ≠ (.error (.refused e), t') := by
  have hunresolved (reason : String) := c.unresolved_ne_refused w.slide w.need reason e
  intro h
  by_cases hd : w.IsDirect
  · rw [lookUp_of_direct c hd, outcome_pure] at h
    cases h
  · cases hr : c.resolver with
    | none =>
      rw [lookUp_of_none hd hr, outcome_ofExcept] at h
      exact hunresolved noResolver (Prod.mk.inj h).1
    | some r =>
      obtain ⟨a, u, ha⟩ : ∃ a u, (r w.request).outcome t = (a, u) := ⟨_, _, rfl⟩
      rw [outcome_lookUp hd hr ha] at h
      have hconclude := (Prod.mk.inj h).1
      cases a with
      | error f => cases hconclude
      | ok a =>
        cases a with
        | found ref => cases hconclude
        | missed query reason => exact hunresolved _ hconclude
        | nothing => exact hunresolved _ hconclude

theorem mapM_lookUp (c : Compiler α σ) (topic : Option String) (index : Nat) (s : Slide α) :
    (s.wishes topic index).mapM c.lookUp = (s.needs topic).mapM (c.resolve index) := by
  calc (s.wishes topic index).mapM c.lookUp
      = ((s.wishes topic index).map fun w => (w.slide, w.need)).mapM fun p =>
          c.resolve p.1 p.2 := by
        rw [List.mapM_map]
        rfl
    _ = ((s.needs topic).map ((index, ·))).mapM fun p => c.resolve p.1 p.2 := by
        rw [Slide.wishes_eq_needs]
    _ = (s.needs topic).mapM (c.resolve index) := by
        rw [List.mapM_map]
        rfl

variable [Scalar α]

def place (c : Canvas α) : Slide α → Except Validation.Refusal Unit
  | .generic _ => .ok ()
  | .templated s => (parts c s).map fun _ => ()

/-- A slide is refused or not, whatever its images are. -/
theorem map_assemble (c : Canvas α) (p : Palette) (index total : Nat) (s : Slide α)
    (refs : List Image.Reference) :
    ((assemble c p index total s refs).map fun _ => ()) = place c s := by
  cases s with
  | generic objects => rfl
  | templated s =>
    rw [assemble, assembleTemplated, place]
    cases parts c s <;> rfl

/-- What is done for a slide: its images are looked up, then there is room for it or not. -/
def visit (c : Compiler α σ) (topic : Option String) (p : Slide α × Nat) :
    Attempt Fault σ Unit := do
  forM (p.1.wishes topic p.2) c.attend
  .ofExcept ((place c.canvas p.1).mapError Fault.refused)

theorem effect_compileSlide_eq_visit (c : Compiler α σ) (topic : Option String)
    (total index : Nat) (s : Slide α) :
    effect (c.compileSlide topic total index s) = c.visit topic (s, index) := by
  have hassemble (refs : List Image.Reference) :
      effect (do
        let is ← .ofExcept ((assemble c.canvas c.palette index total s refs).mapError Fault.refused)
        return (⟨index, is⟩ : Drawing.Slide α)) =
      (.ofExcept ((place c.canvas s).mapError Fault.refused) : Attempt Fault σ Unit) := by
    rw [← map_assemble c.canvas c.palette index total s refs]
    cases assemble c.canvas c.palette index total s refs <;> rfl
  have hround : forM (s.wishes topic index) c.attend =
      effect ((s.wishes topic index).mapM c.lookUp) := (effect_mapM c.lookUp _).symm
  rw [compileSlide, effect_bind]
  simp only [hassemble]
  rw [← mapM_lookUp, visit, hround]
  simp only [effect, bind_assoc, pure_bind]

theorem effect_compile_eq_visits {c : Compiler α σ} {d : Deck α} (hd : d.slides ≠ []) :
    effect (c.compile d) = forM d.slides.zipIdx (c.visit d.topic) := by
  rw [compile, if_neg (mt List.isEmpty_iff.1 hd), compileSlides_eq_mapM, effect_bind]
  calc _ = effect (d.slides.zipIdx.mapM fun p =>
          c.compileSlide d.topic d.slides.length p.2 p.1) := rfl
    _ = forM d.slides.zipIdx (c.visit d.topic) := by
        rw [effect_mapM]
        simp only [effect_compileSlide_eq_visit]

theorem visit_of_assembles {c : Compiler α σ} (h : c.Assembles) (topic : Option String)
    (p : Slide α × Nat) : c.visit topic p = forM (p.1.wishes topic p.2) c.attend := by
  obtain ⟨is, his⟩ := h 0 0 p.1 []
  rw [visit, ← map_assemble c.canvas c.palette 0 0 p.1 [], his]
  exact bind_pure_unit

/-- A compilation goes once round the wishes of its deck. -/
theorem effect_compile {c : Compiler α σ} (h : c.Assembles) {d : Deck α} (hd : d.slides ≠ []) :
    effect (c.compile d) = forM d.wishes c.attend := by
  have hvisit : c.visit d.topic = fun p => forM (p.1.wishes d.topic p.2) c.attend :=
    funext (visit_of_assembles h d.topic)
  rw [effect_compile_eq_visits hd, Deck.wishes, forM_flatMap, hvisit]

theorem state_compile {c : Compiler α σ} (h : c.Assembles) (d : Deck α) (t : σ) :
    ((c.compile d).outcome t).2 = (outcome (forM d.wishes c.attend) t).2 := by
  by_cases hd : d.slides = []
  · simp [compile, hd, Deck.wishes]
  · rw [← effect_compile h hd, outcome_effect]

/-- Where every slide can be assembled, no compilation fails at a box that is refused. -/
theorem Assembles.not_refused {c : Compiler α σ} (h : c.Assembles) (d : Deck α)
    (e : Validation.Refusal) (t t' : σ) : (c.compile d).outcome t ≠ (.error (.refused e), t') := by
  intro hd
  by_cases hslides : d.slides = []
  · rw [compile, hslides] at hd
    cases hd
  · have hround := outcome_effect_eq_error.2 hd
    rw [effect_compile h hslides] at hround
    obtain ⟨_, w, _, u, -, -, hw⟩ := outcome_forM_eq_error.1 hround
    exact c.outcome_lookUp_ne_refused w e u t' (outcome_effect_eq_error.1 hw)

end Compiler

end DeckPress
