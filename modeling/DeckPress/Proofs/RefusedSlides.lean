import DeckPress.Proofs.CanvasLimits
import DeckPress.Proofs.CompilationOutcome

/-!
# Slides that a canvas has no room for

With a resolver that always answers, two things can end the compilation of a deck: an image that is
missed, which is reported, and a slide for which the canvas has no room, which is not. A deck fails
without a report if and only if there is such a slide and the compilation comes as far as that. Data
that is no deck fails without one if it cannot be quoted.
-/
namespace DeckPress

open Attempt Validation

variable {α σ : Type}

namespace Compiler

section Places

variable [Scalar α]

theorem visit_eq_ok {c : Compiler α σ} {topic : Option String} {p : Slide α × Nat} {t t' : σ} :
    (c.visit topic p).outcome t = (.ok (), t') ↔
      outcome (forM (p.1.wishes topic p.2) c.attend) t = (.ok (), t') ∧
        place c.canvas p.1 = .ok () := by
  rw [visit, outcome_bind_eq_ok]
  simp only [outcome_ofExcept, Prod.mk.injEq, mapError_eq_ok]
  constructor
  · rintro ⟨_, _, h, hplace, rfl⟩
    exact ⟨h, hplace⟩
  · rintro ⟨h, hplace⟩
    exact ⟨(), t', h, hplace, rfl⟩

theorem visit_eq_error {c : Compiler α σ} {topic : Option String} {p : Slide α × Nat} {t t' : σ}
    {f : Fault} :
    (c.visit topic p).outcome t = (.error f, t') ↔
      outcome (forM (p.1.wishes topic p.2) c.attend) t = (.error f, t') ∨
        ∃ r, f = .refused r ∧ place c.canvas p.1 = .error r ∧
          outcome (forM (p.1.wishes topic p.2) c.attend) t = (.ok (), t') := by
  rw [visit, outcome_bind_eq_error]
  refine or_congr_right ?_
  simp only [outcome_ofExcept, Prod.mk.injEq, mapError_eq_error]
  constructor
  · rintro ⟨_, _, h, ⟨r, hplace, rfl⟩, rfl⟩
    exact ⟨r, rfl, hplace, h⟩
  · rintro ⟨r, rfl, hplace, h⟩
    exact ⟨(), t', h, ⟨r, hplace, rfl⟩, rfl⟩

def wishesOf (topic : Option String) (ps : List (Slide α × Nat)) : List Wish :=
  ps.flatMap fun p => p.1.wishes topic p.2

omit [Scalar α] in
theorem wishes_concat (topic : Option String) (before : List (Slide α)) (s : Slide α) :
    Deck.wishes ⟨before ++ [s], topic⟩ =
      wishesOf topic before.zipIdx ++ s.wishes topic before.length := by
  simp [Deck.wishes, wishesOf, List.zipIdx_append]

theorem visits_eq_ok {c : Compiler α σ} {topic : Option String} {ps : List (Slide α × Nat)}
    {t t' : σ} :
    outcome (forM ps (c.visit topic)) t = (.ok (), t') ↔
      (∀ p ∈ ps, place c.canvas p.1 = .ok ()) ∧
        outcome (forM (wishesOf topic ps) c.attend) t = (.ok (), t') := by
  induction ps generalizing t with
  | nil => simp [wishesOf]
  | cons p ps ih =>
    rw [wishesOf, List.flatMap_cons, List.forM_append, List.forM_cons, outcome_bind_eq_ok,
      outcome_bind_eq_ok, List.forall_mem_cons]
    constructor
    · rintro ⟨_, u, hp, hps⟩
      obtain ⟨hwishes, hplace⟩ := visit_eq_ok.1 hp
      obtain ⟨hplaces, hrest⟩ := ih.1 hps
      exact ⟨⟨hplace, hplaces⟩, (), u, hwishes, hrest⟩
    · rintro ⟨⟨hplace, hplaces⟩, _, u, hwishes, hrest⟩
      exact ⟨(), u, visit_eq_ok.2 ⟨hwishes, hplace⟩, ih.2 ⟨hplaces, hrest⟩⟩

end Places

section Answers

variable {c : Compiler α σ} (hr : ∀ f, c.resolver = some f → f.Answers)
include hr

theorem isImage_of_attend {w : Wish} {t t' : σ} {f : Fault}
    (h : (c.attend w).outcome t = (.error f, t')) : f.IsImage := by
  cases hs : c.strict with
  | false =>
    obtain ⟨ref, u, hu⟩ := resolve_returns ⟨hs, hr⟩ w.slide w.need t
    cases (outcome_effect_eq_error.1 h).symm.trans hu
  | true =>
    obtain ⟨reason, -, rfl⟩ := (attend_eq_error hs hr).1 h
    exact ⟨_, _, _, rfl⟩

theorem isImage_of_round {ws : List Wish} {t t' : σ} {f : Fault}
    (h : outcome (forM ws c.attend) t = (.error f, t')) : f.IsImage := by
  obtain ⟨_, w, _, u, -, -, hw⟩ := outcome_forM_eq_error.1 h
  exact isImage_of_attend hr hw

/-- A round comes to its end if no image is missed or none has to be had. -/
theorem exists_round_eq_ok {ws : List Wish} {t : σ} :
    (∃ t', outcome (forM ws c.attend) t = (.ok (), t')) ↔
      (c.strict = true → ∃ t', Successively (Had c.resolver) ws t t') := by
  cases hs : c.strict with
  | false =>
    have hreturns : (ws.mapM c.lookUp).Returns :=
      returns_mapM fun w _ => resolve_returns ⟨hs, hr⟩ w.slide w.need
    obtain ⟨refs, t', hrefs⟩ := hreturns t
    have hround : outcome (effect (ws.mapM c.lookUp)) t = (.ok (), t') :=
      outcome_effect_eq_ok.2 ⟨refs, hrefs⟩
    rw [effect_mapM] at hround
    exact iff_of_true ⟨t', hround⟩ nofun
  | true =>
    simp only [round_eq_ok hs hr]
    exact ⟨fun h _ => h, fun h => h trivial⟩

variable [Scalar α]

/-- What goes wrong with a slide is an image, or the slide is refused after its images. -/
theorem visit_eq_refused {topic : Option String} {p : Slide α × Nat} {t t' : σ} {r : Refusal} :
    (c.visit topic p).outcome t = (.error (.refused r), t') ↔
      place c.canvas p.1 = .error r ∧
        outcome (forM (p.1.wishes topic p.2) c.attend) t = (.ok (), t') := by
  rw [visit_eq_error]
  constructor
  · rintro (h | ⟨_, ⟨⟩, h⟩)
    · obtain ⟨_, _, _, hf⟩ := isImage_of_round hr h
      cases hf
    · exact h
  · exact fun h => .inr ⟨r, rfl, h⟩

theorem isImage_or_refused_of_visit {topic : Option String} {p : Slide α × Nat} {t t' : σ}
    {f : Fault} (h : (c.visit topic p).outcome t = (.error f, t')) :
    f.IsImage ∨ ∃ r, f = .refused r := by
  obtain h | ⟨r, hf, -⟩ := visit_eq_error.1 h
  · exact .inl (isImage_of_round hr h)
  · exact .inr ⟨r, hf⟩

/-- A slide is refused after all slides before it found room and all images up to its own last one
were looked up. -/
theorem visits_eq_refused {topic : Option String} {ss : List (Slide α)} {t t' : σ} {r : Refusal} :
    outcome (forM ss.zipIdx (c.visit topic)) t = (.error (.refused r), t') ↔
      ∃ before s after, ss = before ++ s :: after ∧
        (∀ b ∈ before, place c.canvas b = .ok ()) ∧ place c.canvas s = .error r ∧
        outcome (forM (Deck.wishes ⟨before ++ [s], topic⟩) c.attend) t = (.ok (), t') := by
  have hwishes (before : List (Slide α)) (s : Slide α) (t t' : σ) :
      outcome (forM (Deck.wishes ⟨before ++ [s], topic⟩) c.attend) t = (.ok (), t') ↔
        ∃ u, outcome (forM (wishesOf topic before.zipIdx) c.attend) t = (.ok (), u) ∧
          outcome (forM (s.wishes topic before.length) c.attend) u = (.ok (), t') := by
    rw [wishes_concat, List.forM_append, outcome_bind_eq_ok]
    constructor
    · rintro ⟨_, u, h⟩
      exact ⟨u, h⟩
    · rintro ⟨u, h⟩
      exact ⟨(), u, h⟩
  have hplaces (before : List (Slide α)) :
      (∀ p ∈ before.zipIdx, place c.canvas p.1 = .ok ()) ↔
        ∀ b ∈ before, place c.canvas b = .ok () := by
    conv_rhs => rw [← List.zipIdx_map_fst 0 before]
    exact (List.forall_mem_map (P := fun b => place c.canvas b = .ok ())).symm
  rw [outcome_forM_eq_error]
  simp only [← outcome_forM_eq_ok, visits_eq_ok, visit_eq_refused hr, hwishes]
  constructor
  · rintro ⟨ps, p, qs, u, hps, ⟨hall, hbefore⟩, hplace, hown⟩
    obtain ⟨before, rest, rfl, rfl, hrest⟩ := List.zipIdx_eq_append_iff.1 hps
    obtain ⟨s, after, rfl, rfl, -⟩ := List.zipIdx_eq_cons_iff.1 hrest.symm
    rw [Nat.zero_add] at hown
    exact ⟨before, s, after, rfl, (hplaces before).1 hall, hplace, u, hbefore, hown⟩
  · rintro ⟨before, s, after, rfl, hall, hplace, u, hbefore, hown⟩
    refine ⟨before.zipIdx, (s, before.length), after.zipIdx (before.length + 1), u, ?_,
      ⟨(hplaces before).2 hall, hbefore⟩, hplace, hown⟩
    rw [List.zipIdx_append, List.zipIdx_cons, Nat.zero_add]

theorem isImage_or_refused_of_compile {d : Deck α} (hd : d.slides ≠ []) {t : σ} {f : Fault}
    (h : ((c.compile d).outcome t).1 = .error f) : f.IsImage ∨ ∃ r, f = .refused r := by
  have hvisits := outcome_effect_eq_error.2 (Prod.ext h rfl)
  rw [effect_compile_eq_visits hd] at hvisits
  obtain ⟨_, p, _, u, -, -, hp⟩ := outcome_forM_eq_error.1 hvisits
  exact isImage_or_refused_of_visit hr hp

/-- A deck is refused if and only if one of its slides has no room and the compilation comes to
that slide. -/
theorem exists_compile_eq_refused {d : Deck α} {t : σ} :
    (∃ r, ((c.compile d).outcome t).1 = .error (.refused r)) ↔
      ∃ before s after, d.slides = before ++ s :: after ∧
        (∀ b ∈ before, place c.canvas b = .ok ()) ∧ (∃ r, place c.canvas s = .error r) ∧
        (c.strict = true →
          ∃ t', Successively (Had c.resolver) (Deck.wishes ⟨before ++ [s], d.topic⟩) t t') := by
  by_cases hd : d.slides = []
  · simp [compile_of_no_slides c hd, hd]
  have hvisits (r : Refusal) : ((c.compile d).outcome t).1 = .error (.refused r) ↔
      ∃ t', outcome (forM d.slides.zipIdx (c.visit d.topic)) t = (.error (.refused r), t') := by
    rw [← effect_compile_eq_visits hd]
    simp only [outcome_effect_eq_error]
    constructor
    · exact fun h => ⟨_, Prod.ext h rfl⟩
    · rintro ⟨t', h⟩
      exact congrArg Prod.fst h
  simp only [hvisits, visits_eq_refused hr, ← exists_round_eq_ok hr]
  constructor
  · rintro ⟨r, t', before, s, after, hslides, hall, hplace, hround⟩
    exact ⟨before, s, after, hslides, hall, ⟨r, hplace⟩, t', hround⟩
  · rintro ⟨before, s, after, hslides, hall, ⟨r, hplace⟩, t', hround⟩
    exact ⟨r, t', before, s, after, hslides, hall, hplace, hround⟩

theorem refused_of_report?_eq_none {d : Deck α} {t : σ} {f : Fault}
    (h : ((c.compile d).outcome t).1 = .error f) (hf : f.report? = none) :
    ∃ r, f = .refused r := by
  by_cases hd : d.slides = []
  · rw [compile_of_no_slides c hd] at h
    cases h
    cases hf
  · obtain ⟨_, _, _, rfl⟩ | hrefused := isImage_or_refused_of_compile hr hd h
    · cases hf
    · exact hrefused

/-- All that a compilation leaves without a report is a slide that is refused. -/
theorem exists_unreported_iff {d : Deck α} {t : σ} :
    (∃ f, ((c.compile d).outcome t).1 = .error f ∧ f.report? = none) ↔
      ∃ r, ((c.compile d).outcome t).1 = .error (.refused r) := by
  constructor
  · rintro ⟨f, h, hf⟩
    obtain ⟨r, rfl⟩ := refused_of_report?_eq_none hr h hf
    exact ⟨r, h⟩
  · rintro ⟨r, h⟩
    exact ⟨_, h, rfl⟩

end Answers

/-- The canvas is large enough for a slide. -/
def Fits (c : Canvas Float) : Slide Float → Prop
  | .generic _ => True
  | .templated s => IsLargeFor c s

section Positive

variable {c : Canvas Float} (hw : Scalar.zero < c.width) (hh : Scalar.zero < c.height)
include hw hh

theorem place_eq_ok {s : Slide Float} : place c s = .ok () ↔ Fits c s := by
  cases s with
  | generic objects => exact iff_of_true rfl trivial
  | templated s => exact map_const_eq_ok.trans (exists_parts_iff_isLargeFor hw hh)

theorem exists_place_eq_error {s : Slide Float} : (∃ r, place c s = .error r) ↔ ¬Fits c s := by
  rw [← place_eq_ok hw hh]
  cases place c s with
  | ok u => simp
  | error r => simp

end Positive

/-- On this canvas a body has some room, but not beside an image. -/
def narrowCompiler : Compiler Float Bool where
  canvas := ⟨Scalar.decimal 125 2, Scalar.whole 3⟩
  strict := true
  resolver := findsOnce

def lakeSlides : Json :=
  .arr [.obj [("title", .str "Hills")],
    .obj [("title", .str "Lakes"), ("imageQuery", .str "a lake")]]

def hills : Slide Float := .templated ⟨"Hills", "", none, none⟩

def lakes : Slide Float := .templated ⟨"Lakes", "", none, some "a lake"⟩

theorem parse_lakeSlides : Deck.parse lakeSlides = .ok ⟨[hills, lakes], none⟩ := by
  decide +kernel

def titleOnlyDeck : Json := .arr [.obj [("title", .str "A"), ("layout", .str "titleOnly")]]

end Compiler

end DeckPress
