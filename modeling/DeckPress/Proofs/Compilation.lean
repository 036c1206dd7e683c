import DeckPress.Proofs.Assembly

/-!
# How decks are compiled

A compilation that returns has compiled the slides one after the other: each looked up its images
and was then assembled from them. A lenient compilation finds some image for every need, so it can
only fail where a slide cannot be assembled.
-/
namespace DeckPress

open Attempt

/-- The resolver answers every request, from whatever state. -/
def Image.Resolver.Answers {σ : Type} (r : Image.Resolver σ) : Prop := ∀ q, (r q).Returns

namespace Compiler

variable {α σ : Type}

/-- A missing image is no reason to fail, and the resolver, if there is one, always answers. -/
structure IsLenient (c : Compiler α σ) : Prop where
  not_strict : c.strict = false
  answers : ∀ r, c.resolver = some r → r.Answers

theorem unresolved_of_lenient {c : Compiler α σ} (h : c.strict = false) (slide : Nat) (n : Need)
    (reason : String) : c.unresolved slide n reason = .ok ⟨c.fallbackUrl, true⟩ := by
  simp [unresolved, h]

theorem ofAnswer_of_lenient {c : Compiler α σ} (h : c.strict = false) (slide : Nat) (n : Need)
    (a : Image.Answer) : ∃ r, c.ofAnswer slide n a = .ok r := by
  cases a with
  | found r => exact ⟨r, rfl⟩
  | missed query reason => exact ⟨_, unresolved_of_lenient h slide n reason⟩
  | nothing => exact ⟨_, unresolved_of_lenient h slide n ""⟩

theorem resolve_returns {c : Compiler α σ} (h : c.IsLenient) (slide : Nat) (n : Need) :
    (c.resolve slide n).Returns := by
  unfold resolve
  split
  · exact returns_pure _
  · split
    · exact returns_ofExcept (unresolved_of_lenient h.not_strict slide n noResolver)
    · next r hr =>
      refine ((h.answers r hr _).adapt Fault.search).bind fun a => ?_
      obtain ⟨ref, ha⟩ := ofAnswer_of_lenient h.not_strict slide n a
      exact returns_ofExcept ha

variable [Scalar α]

theorem compileSlide_eq_ok {c : Compiler α σ} {topic : Option String} {total index : Nat}
    {s : Slide α} {t t' : σ} {out : Drawing.Slide α} :
    (c.compileSlide topic total index s).outcome t = (.ok out, t') ↔
      ∃ refs, Traverses (c.resolve index) (s.needs topic) t refs t' ∧
        assemble c.canvas c.palette index total s refs = .ok out.instructions ∧
        out.index = index := by
  simp only [compileSlide, outcome_bind_eq_ok, outcome_mapM_eq_ok, outcome_ofExcept, outcome_pure,
    Prod.mk.injEq, Except.ok.injEq]
  constructor
  · rintro ⟨refs, t₁, hrefs, is, _, ⟨his, rfl⟩, rfl, rfl⟩
    refine ⟨refs, hrefs, ?_, rfl⟩
    cases ha : assemble c.canvas c.palette index total s refs with
    | error e => simp [ha, Except.mapError] at his
    | ok is' => simpa [ha, Except.mapError] using his
  · rintro ⟨refs, hrefs, his, hindex⟩
    refine ⟨refs, t', hrefs, out.instructions, t', ⟨by simp [his, Except.mapError], rfl⟩, ?_, rfl⟩
    rw [← hindex]

theorem compileSlides_eq_mapM (c : Compiler α σ) (topic : Option String) (total index : Nat)
    (ss : List (Slide α)) :
    c.compileSlides topic total index ss =
      (ss.zipIdx index).mapM fun p => c.compileSlide topic total p.2 p.1 := by
  induction ss generalizing index with
  | nil => rfl
  | cons s ss ih => simp only [compileSlides, List.zipIdx_cons, List.mapM_cons, ih]

theorem compile_eq_ok {c : Compiler α σ} {d : Deck α} {t t' : σ} {g : Drawing α} :
    (c.compile d).outcome t = (.ok g, t') ↔
      d.slides ≠ [] ∧ g.canvas = c.canvas ∧
        Traverses (fun p => c.compileSlide d.topic d.slides.length p.2 p.1) d.slides.zipIdx t
          g.slides t' := by
  unfold compile
  split
  · next he => simp [List.isEmpty_iff.1 he]
  · next he =>
    simp only [outcome_bind_eq_ok, compileSlides_eq_mapM, outcome_mapM_eq_ok, outcome_pure,
      Prod.mk.injEq, Except.ok.injEq]
    have hne : d.slides ≠ [] := fun h => he (List.isEmpty_iff.2 h)
    constructor
    · rintro ⟨ss, _, hss, rfl, rfl⟩
      exact ⟨hne, rfl, hss⟩
    · rintro ⟨-, hcanvas, hss⟩
      exact ⟨g.slides, t', hss, by rw [← hcanvas], rfl⟩

/-- Slide by slide, in order: what each of them is compiled to, from whatever state. -/
theorem compile_forall₂ {c : Compiler α σ} {d : Deck α} {t t' : σ} {g : Drawing α}
    (h : (c.compile d).outcome t = (.ok g, t')) :
    List.Forall₂ (fun p out => ∃ u u',
      (c.compileSlide d.topic d.slides.length p.2 p.1).outcome u = (.ok out, u'))
      d.slides.zipIdx g.slides :=
  (compile_eq_ok.1 h).2.2.forall₂

theorem length_compile {c : Compiler α σ} {d : Deck α} {t t' : σ} {g : Drawing α}
    (h : (c.compile d).outcome t = (.ok g, t')) : g.slides.length = d.slides.length := by
  simpa using (compile_forall₂ h).length_eq.symm

def Assembles (c : Compiler α σ) : Prop :=
  ∀ (index total : Nat) (s : Slide α) (refs : List Image.Reference),
    ∃ is, assemble c.canvas c.palette index total s refs = .ok is

theorem compileSlide_returns {c : Compiler α σ} (h : c.IsLenient) (ha : c.Assembles)
    (topic : Option String) (total index : Nat) (s : Slide α) :
    (c.compileSlide topic total index s).Returns := by
  refine (returns_mapM fun n _ => resolve_returns h index n).bind fun refs => ?_
  obtain ⟨is, his⟩ := ha index total s refs
  exact (returns_ofExcept (by rw [his]; rfl)).bind fun _ => returns_pure _

/-- A lenient compilation of a deck with slides returns, if every slide can be assembled. -/
theorem compile_returns {c : Compiler α σ} (h : c.IsLenient) (ha : c.Assembles) {d : Deck α}
    (hd : d.slides ≠ []) : (c.compile d).Returns := by
  unfold compile
  rw [if_neg (mt List.isEmpty_iff.1 hd), compileSlides_eq_mapM]
  exact (returns_mapM fun p _ => compileSlide_returns h ha _ _ _ _).bind fun _ => returns_pure _

end Compiler

end DeckPress
