import DeckPress.Failure
import DeckPress.Proofs.CanvasChoice
import DeckPress.Proofs.SlideContents
import DeckPress.Proofs.Wishes

/-!
# What a compilation comes to

Data that is no deck is refused, and so is a deck without slides. Any other deck is compiled, whole,
if a missing image is no reason to fail. If it is one, a deck is compiled if and only if all its
images are had one after another; else the first image that is missed is reported, with its slide,
its place, its query and the reason. Only one other thing can go wrong: data that is no deck is not
reported as that if it cannot be quoted.
-/
namespace DeckPress

open Attempt

variable {α σ : Type}

/-- The image is had: under the address that the query is, or from the resolver. -/
inductive Had (r : Option (Image.Resolver σ)) : Wish → σ → σ → Prop
  | direct {w : Wish} {t : σ} (h : w.IsDirect) : Had r w t t
  | found {w : Wish} {f : Image.Resolver σ} {image : Image.Reference} {t t' : σ}
      (h : ¬w.IsDirect) (hr : r = some f)
      (ha : (f w.request).outcome t = (.ok (.found image), t')) : Had r w t t'

/-- The image is not had, for some reason. -/
inductive Missed (r : Option (Image.Resolver σ)) : Wish → String → σ → σ → Prop
  | unasked {w : Wish} {t : σ} (h : ¬w.IsDirect) (hr : r = none) :
      Missed r w "no image resolver configured" t t
  | failed {w : Wish} {f : Image.Resolver σ} {query reason : String} {t t' : σ}
      (h : ¬w.IsDirect) (hr : r = some f)
      (ha : (f w.request).outcome t = (.ok (.missed query reason), t')) : Missed r w reason t t'
  | unanswered {w : Wish} {f : Image.Resolver σ} {t t' : σ} (h : ¬w.IsDirect) (hr : r = some f)
      (ha : (f w.request).outcome t = (.ok .nothing, t')) : Missed r w "" t t'

/-- The first of the wishes for which there is no image, when they are looked up in turn. -/
def FirstMissed (r : Option (Image.Resolver σ)) (ws : List Wish) (t : σ) (w : Wish)
    (reason : String) : Prop :=
  ∃ before after u t', ws = before ++ w :: after ∧ Successively (Had r) before t u ∧
    Missed r w reason u t'

theorem had_or_missed {r : Option (Image.Resolver σ)} (hr : ∀ f, r = some f → f.Answers) (w : Wish)
    (t : σ) : (∃ t', Had r w t t') ∨ ∃ reason t', Missed r w reason t t' := by
  by_cases h : w.IsDirect
  · exact .inl ⟨t, .direct h⟩
  cases r with
  | none => exact .inr ⟨_, t, .unasked h rfl⟩
  | some f =>
    obtain ⟨a, t', ha⟩ := hr f rfl w.request t
    cases a with
    | found image => exact .inl ⟨t', .found h rfl ha⟩
    | missed query reason => exact .inr ⟨reason, t', .failed h rfl ha⟩
    | nothing => exact .inr ⟨"", t', .unanswered h rfl ha⟩

namespace Compiler

/-- There is no image, and that is a reason to fail. -/
def Fault.IsImage (f : Fault) : Prop := ∃ slide n reason, f = .image slide n reason

theorem attend_of_had {c : Compiler α σ} {w : Wish} {t t' : σ} (h : Had c.resolver w t t') :
    (c.attend w).outcome t = (.ok (), t') := by
  apply outcome_effect_eq_ok.2
  cases h with
  | direct h =>
    rw [lookUp_of_direct c h]
    exact ⟨_, rfl⟩
  | found h hr ha =>
    rw [outcome_lookUp h hr ha]
    exact ⟨_, rfl⟩

theorem attend_of_missed {c : Compiler α σ} (hs : c.strict = true) {w : Wish} {reason : String}
    {t t' : σ} (h : Missed c.resolver w reason t t') :
    (c.attend w).outcome t = (.error (.image w.slide w.need reason), t') := by
  have hstrict (reason : String) :
      c.unresolved w.slide w.need reason = .error (.image w.slide w.need reason) := if_pos hs
  apply outcome_effect_eq_error.2
  cases h with
  | unasked h hr =>
    rw [lookUp_of_none h hr, outcome_ofExcept, hstrict]
    rfl
  | failed h hr ha =>
    rw [outcome_lookUp h hr ha]
    exact congrArg (·, t') (hstrict reason)
  | unanswered h hr ha =>
    rw [outcome_lookUp h hr ha]
    exact congrArg (·, t') (hstrict "")

section Strict

variable {c : Compiler α σ} (hs : c.strict = true) (hr : ∀ f, c.resolver = some f → f.Answers)
include hs hr

theorem attend_eq_ok {w : Wish} {t t' : σ} :
    (c.attend w).outcome t = (.ok (), t') ↔ Had c.resolver w t t' := by
  refine ⟨fun h => ?_, attend_of_had⟩
  obtain ⟨u, hu⟩ | ⟨reason, u, hu⟩ := had_or_missed hr w t
  · cases (attend_of_had hu).symm.trans h
    exact hu
  · cases (attend_of_missed hs hu).symm.trans h

theorem attend_eq_error {w : Wish} {t t' : σ} {f : Fault} :
    (c.attend w).outcome t = (.error f, t') ↔
      ∃ reason, Missed c.resolver w reason t t' ∧ f = .image w.slide w.need reason := by
  constructor
  · intro h
    obtain ⟨u, hu⟩ | ⟨reason, u, hu⟩ := had_or_missed hr w t
    · cases (attend_of_had hu).symm.trans h
    · cases (attend_of_missed hs hu).symm.trans h
      exact ⟨reason, hu, rfl⟩
  · rintro ⟨reason, hu, rfl⟩
    exact attend_of_missed hs hu

theorem round_eq_ok {ws : List Wish} {t t' : σ} :
    outcome (forM ws c.attend) t = (.ok (), t') ↔ Successively (Had c.resolver) ws t t' := by
  rw [outcome_forM_eq_ok]
  constructor
  · exact fun h => h.imp fun _ _ _ => (attend_eq_ok hs hr).1
  · exact fun h => h.imp fun _ _ _ => attend_of_had

theorem round_eq_error {ws : List Wish} {t : σ} {f : Fault} :
    (∃ t', outcome (forM ws c.attend) t = (.error f, t')) ↔
      ∃ w reason, FirstMissed c.resolver ws t w reason ∧ f = .image w.slide w.need reason := by
  simp only [outcome_forM_eq_error, attend_eq_error hs hr]
  constructor
  · rintro ⟨t', before, w, after, u, rfl, hbefore, reason, hmissed, rfl⟩
    have hhad := hbefore.imp fun _ _ _ => (attend_eq_ok hs hr).1
    exact ⟨w, reason, ⟨before, after, u, t', rfl, hhad, hmissed⟩, rfl⟩
  · rintro ⟨w, reason, ⟨before, after, u, t', rfl, hhad, hmissed⟩, rfl⟩
    have hbefore := hhad.imp fun _ _ _ => attend_of_had (c := c)
    exact ⟨t', before, w, after, u, rfl, hbefore, reason, hmissed, rfl⟩

end Strict

section Compilation

variable {c : Compiler Float σ} {k : CanvasChoice} (hk : c.canvas = k.canvas) {d : Deck Float}
  (hd : d.slides ≠ [])
include hk hd

theorem exists_compile_eq_ok (t : σ) :
    (∃ g, ((c.compile d).outcome t).1 = .ok g) ↔
      ∃ t', outcome (forM d.wishes c.attend) t = (.ok (), t') := by
  rw [← effect_compile (assembles_of_choice hk) hd]
  simp only [outcome_effect_eq_ok]
  constructor
  · rintro ⟨g, hg⟩
    exact ⟨_, g, Prod.ext hg rfl⟩
  · rintro ⟨t', g, hg⟩
    exact ⟨g, by rw [hg]⟩

theorem compile_eq_error (t : σ) (f : Fault) :
    ((c.compile d).outcome t).1 = .error f ↔
      ∃ t', outcome (forM d.wishes c.attend) t = (.error f, t') := by
  rw [← effect_compile (assembles_of_choice hk) hd]
  simp only [outcome_effect_eq_error]
  constructor
  · exact fun hf => ⟨_, Prod.ext hf rfl⟩
  · rintro ⟨t', hf⟩
    rw [hf]

end Compilation

theorem compile_of_no_slides [Scalar α] (c : Compiler α σ) {d : Deck α} (hd : d.slides = [])
    (t : σ) : (c.compile d).outcome t = (.error .emptyDeck, t) := by
  rw [compile, hd]
  rfl

theorem outcome_compileData {c : Compiler Float σ} {data : Json} {d : Deck Float}
    (hp : Deck.parse data = .ok d) (t : σ) :
    (c.compileData data).outcome t = (c.compile d).outcome t := by
  rw [compileData, hp]
  rfl

theorem outcome_compileData_of_rejection {c : Compiler Float σ} {data : Json} {r : Deck.Rejection}
    (hp : Deck.parse data = .error r) (t : σ) :
    (c.compileData data).outcome t = (.error (.ofRejection r), t) := by
  rw [compileData, hp]
  rfl

section Outcome

variable {c : Compiler Float σ} {k : CanvasChoice} (hk : c.canvas = k.canvas)
  (hr : ∀ f, c.resolver = some f → f.Answers) {d : Deck Float} (hd : d.slides ≠ [])
include hk hr hd

/-- If missing images are no reason to fail, a deck with slides is compiled. -/
theorem compile_of_lenient (hs : c.strict = false) (t : σ) :
    ∃ g, ((c.compile d).outcome t).1 = .ok g := by
  obtain ⟨g, t', hg⟩ := compile_returns ⟨hs, hr⟩ (assembles_of_choice hk) hd t
  exact ⟨g, by rw [hg]⟩

theorem compile_of_strict (hs : c.strict = true) (t : σ) :
    ((∃ g, ((c.compile d).outcome t).1 = .ok g) ↔
        ∃ t', Successively (Had c.resolver) d.wishes t t') ∧
      ∀ f, ((c.compile d).outcome t).1 = .error f ↔
        ∃ w reason, FirstMissed c.resolver d.wishes t w reason ∧
          f = .image w.slide w.need reason := by
  refine ⟨?_, fun f => ?_⟩
  · rw [exists_compile_eq_ok hk hd]
    simp only [round_eq_ok hs hr]
  · rw [compile_eq_error hk hd]
    exact round_eq_error hs hr

theorem isImage_of_compile_eq_error {t : σ} {f : Fault}
    (h : ((c.compile d).outcome t).1 = .error f) : f.IsImage := by
  cases hs : c.strict with
  | false =>
    obtain ⟨g, hg⟩ := compile_of_lenient hk hr hd hs t
    rw [hg] at h
    cases h
  | true =>
    obtain ⟨w, reason, -, hf⟩ := ((compile_of_strict hk hr hd hs t).2 f).1 h
    exact ⟨_, _, _, hf⟩

end Outcome

/-- What is compiled is whole: slide by slide, in order, and with all that a slide holds. -/
theorem compile_is_whole {c : Compiler Float σ} {d : Deck Float} {t : σ} {g : Drawing Float}
    (h : ((c.compile d).outcome t).1 = .ok g) :
    List.Forall₂ (fun p s => s.index = p.2 ∧ Draws c.canvas s p.1) d.slides.zipIdx g.slides := by
  refine (compile_forall₂ (Prod.ext h rfl)).imp fun p s hs => ?_
  obtain ⟨u, u', hslide⟩ := hs
  obtain ⟨hindex, -, -, hdraws⟩ := compileSlide_draws hslide
  exact ⟨hindex, hdraws⟩

/-- What a deck with slides is to come to: a whole drawing or, if missing images are a reason to
fail, the report of the first that is missed. -/
structure IsCompiled (c : Compiler Float σ) (d : Deck Float) (t : σ)
    (out : Except Fault (Drawing Float)) : Prop where
  whole : ∀ g, out = .ok g →
    List.Forall₂ (fun p s => s.index = p.2 ∧ Draws c.canvas s p.1) d.slides.zipIdx g.slides
  lenient : c.strict = false → ∃ g, out = .ok g
  strict : c.strict = true →
    ((∃ g, out = .ok g) ↔ ∃ t', Successively (Had c.resolver) d.wishes t t')
  missed : c.strict = true → ∀ f, out = .error f ↔
    ∃ w reason, FirstMissed c.resolver d.wishes t w reason ∧ f = .image w.slide w.need reason ∧
      f.report? = some (.image w.slide w.place.text w.query reason)

/-- What data is to come to. -/
structure ComesTo (c : Compiler Float σ) (data : Json) (t : σ)
    (out : Except Fault (Drawing Float)) : Prop where
  mismatch : (∃ m, out = .error (.mismatch m)) ↔ ∃ r, Deck.parse data = .error r
  /-- The report is the one of the data. -/
  isOfData : ∀ m, out = .error (.mismatch m) → Deck.parse data = .error (.mismatch m)
  emptyDeck : out = .error .emptyDeck ↔ ∃ d, Deck.parse data = .ok d ∧ d.slides = []
  deck : ∀ d, Deck.parse data = .ok d → d.slides ≠ [] → c.IsCompiled d t out
  nothingElse : ∀ f, out = .error f → (∃ m, f = .mismatch m) ∨ f = .emptyDeck ∨ f.IsImage

section Data

variable {c : Compiler Float σ} {k : CanvasChoice} (hk : c.canvas = k.canvas)
  (hr : ∀ f, c.resolver = some f → f.Answers) {data : Json} {d : Deck Float}
  (hp : Deck.parse data = .ok d) (t : σ)
include hk hr hp

theorem compileData_isCompiled (hd : d.slides ≠ []) :
    c.IsCompiled d t ((c.compileData data).outcome t).1 := by
  rw [outcome_compileData hp]
  constructor
  · exact fun g => compile_is_whole
  · exact fun hs => compile_of_lenient hk hr hd hs t
  · exact fun hs => (compile_of_strict hk hr hd hs t).1
  · intro hs f
    rw [(compile_of_strict hk hr hd hs t).2 f]
    constructor
    · rintro ⟨w, reason, hfirst, rfl⟩
      exact ⟨w, reason, hfirst, rfl, rfl⟩
    · rintro ⟨w, reason, hfirst, hf, -⟩
      exact ⟨w, reason, hfirst, hf⟩

theorem comesTo_of_parse : c.ComesTo data t ((c.compileData data).outcome t).1 := by
  have hcompile := congrArg Prod.fst (outcome_compileData (c := c) hp t)
  have hfails {f : Fault} (hf : ((c.compileData data).outcome t).1 = .error f) :
      f = .emptyDeck ∧ d.slides = [] ∨ f.IsImage ∧ d.slides ≠ [] := by
    rw [hcompile] at hf
    by_cases hd : d.slides = []
    · rw [compile_of_no_slides c hd] at hf
      cases hf
      exact .inl ⟨rfl, hd⟩
    · exact .inr ⟨isImage_of_compile_eq_error hk hr hd hf, hd⟩
  have hmismatch (m : Deck.Mismatch) :
      ((c.compileData data).outcome t).1 ≠ .error (.mismatch m) := by
    intro hm
    obtain ⟨hf, -⟩ | ⟨⟨_, _, _, hf⟩, -⟩ := hfails hm <;> cases hf
  constructor
  · rw [hp]
    exact iff_of_false (fun ⟨m, hm⟩ => hmismatch m hm) nofun
  · exact fun m hm => absurd hm (hmismatch m)
  · constructor
    · intro h
      obtain ⟨-, hd⟩ | ⟨⟨_, _, _, hf⟩, -⟩ := hfails h
      · exact ⟨d, hp, hd⟩
      · cases hf
    · rintro ⟨d', hd', hnil⟩
      cases hp.symm.trans hd'
      rw [hcompile, compile_of_no_slides c hnil]
  · intro d' hd' hne
    cases hp.symm.trans hd'
    exact compileData_isCompiled hk hr hp t hne
  · intro f hf
    obtain ⟨rfl, -⟩ | ⟨himage, -⟩ := hfails hf
    · exact .inr (.inl rfl)
    · exact .inr (.inr himage)

end Data

theorem comesTo_of_mismatch (c : Compiler Float σ) {data : Json} {m : Deck.Mismatch}
    (hp : Deck.parse data = .error (.mismatch m)) (t : σ) :
    c.ComesTo data t ((c.compileData data).outcome t).1 := by
  rw [outcome_compileData_of_rejection hp]
  constructor
  · exact iff_of_true ⟨m, rfl⟩ ⟨_, hp⟩
  · rintro _ ⟨⟩
    exact hp
  · rw [hp]
    exact iff_of_false nofun nofun
  · rw [hp]
    exact nofun
  · rintro _ ⟨⟩
    exact .inl ⟨m, rfl⟩

/-- A slide that asks for a lake, and one with an image under its address and one of the topic. -/
def riverDeck : Json :=
  let place := [("x", Json.int 1), ("y", .int 1), ("w", .str "50%"), ("h", .int 2)]
  .obj [("topic", .str "rivers"), ("slides", .arr
    [.obj [("title", .str "Lakes"), ("imageQuery", .str "a lake")],
      .obj [("objects", .arr
        [.obj ([("type", .str "text"), ("text", .str "Map")] ++ place),
          .obj ([("type", .str "image"), ("urlOrQuery", .str "https://a/b")] ++ place),
          .obj (("type", .str "image") :: place)])]])]

def riverWishes : List Wish :=
  [⟨0, .query, "a lake", "rivers", "Lakes "⟩, ⟨1, .object 1, "https://a/b", "rivers", "Map"⟩,
    ⟨1, .object 2, "", "rivers", "Map"⟩]

theorem parse_riverDeck :
    ((Deck.parse riverDeck).toOption.any fun d =>
      decide (d.slides ≠ [] ∧ d.wishes = riverWishes)) = true := by
  decide +kernel

def findsOnce : Image.Resolver Bool := fun q found =>
  (.ok (if found then .missed q.query "no results" else .found ⟨"https://c/d", false⟩), true)

end Compiler

end DeckPress
