import DeckPress.Proofs.Compilation

/-!
# Attempts side by side

Two attempts run alike if from states that correspond they come to the same and leave states that
correspond; the first one may be excused, when it fails for certain reasons. What is composed of
attempts that run alike runs alike. So two compilations run alike if they look up images alike.
-/
namespace DeckPress

namespace Attempt

variable {ε ε' σ τ α β : Type}

/-- From corresponding states the first attempt fails with an excuse, or both come to the same and
their states still correspond. -/
def RunsLike (R : σ → τ → Prop) (Excused : ε → Prop) (x : Attempt ε σ α) (y : Attempt ε τ α) :
    Prop :=
  ∀ s t, R s t → (∃ e, Excused e ∧ (outcome x s).1 = .error e) ∨
    (outcome x s).1 = (outcome y t).1 ∧ R (outcome x s).2 (outcome y t).2

variable {R : σ → τ → Prop} {Excused : ε → Prop}

theorem runsLike_pure (a : α) : RunsLike R Excused (pure a : Attempt ε σ α) (pure a) :=
  fun _ _ h => .inr ⟨rfl, h⟩

theorem runsLike_ofExcept (x : Except ε α) :
    RunsLike R Excused (ofExcept x : Attempt ε σ α) (ofExcept x) :=
  fun _ _ h => .inr ⟨rfl, h⟩

theorem RunsLike.bind {x : Attempt ε σ α} {y : Attempt ε τ α} {f : α → Attempt ε σ β}
    {g : α → Attempt ε τ β} (h : RunsLike R Excused x y) (hf : ∀ a, RunsLike R Excused (f a) (g a)) :
    RunsLike R Excused (x >>= f) (y >>= g) := by
  intro s t hst
  rw [outcome_bind, outcome_bind]
  have hxy := h s t hst
  generalize outcome x s = p, outcome y t = q at hxy ⊢
  obtain ⟨⟨e⟩ | ⟨a⟩, s'⟩ := p
  · obtain ⟨e', he', hp⟩ | ⟨hresult, hstates⟩ := hxy
    · cases hp
      exact .inl ⟨e, he', rfl⟩
    · obtain ⟨⟨e'⟩ | ⟨b⟩, t'⟩ := q
      · cases hresult
        exact .inr ⟨rfl, hstates⟩
      · cases hresult
  · obtain ⟨e', -, hp⟩ | ⟨hresult, hstates⟩ := hxy
    · cases hp
    · obtain ⟨⟨e'⟩ | ⟨b⟩, t'⟩ := q
      · cases hresult
      · cases hresult
        exact hf a s' t' hstates

theorem RunsLike.adapt {Excused' : ε' → Prop} {x : Attempt ε σ α} {y : Attempt ε τ α} {f : ε → ε'}
    (h : RunsLike R Excused x y) (hf : ∀ e, Excused e → Excused' (f e)) :
    RunsLike R Excused' (x.adapt f) (y.adapt f) := by
  intro s t hst
  rw [outcome_adapt, outcome_adapt]
  obtain ⟨e, he, hx⟩ | ⟨hresult, hstates⟩ := h s t hst
  · exact .inl ⟨f e, hf e he, by rw [hx]; rfl⟩
  · exact .inr ⟨by rw [hresult], hstates⟩

theorem runsLike_mapM {f : α → Attempt ε σ β} {g : α → Attempt ε τ β} {as : List α}
    (h : ∀ a ∈ as, RunsLike R Excused (f a) (g a)) :
    RunsLike R Excused (as.mapM f) (as.mapM g) := by
  induction as with
  | nil => exact runsLike_pure []
  | cons a as ih =>
    rw [List.mapM_cons, List.mapM_cons]
    have hhead := h a List.mem_cons_self
    have htail := ih fun b hb => h b (List.mem_cons_of_mem a hb)
    exact hhead.bind fun b => htail.bind fun bs => runsLike_pure (b :: bs)

end Attempt

namespace Compiler

open Attempt

variable {α σ τ : Type} {R : σ → τ → Prop} {Excused : Fault → Prop} {c : Compiler α σ}
  {c' : Compiler α τ}

/-- The compilers place and color alike, and look up images alike. -/
structure LooksUpLike (R : σ → τ → Prop) (Excused : Fault → Prop) (c : Compiler α σ)
    (c' : Compiler α τ) : Prop where
  canvas : c.canvas = c'.canvas
  palette : c.palette = c'.palette
  resolve : ∀ index n, RunsLike R Excused (c.resolve index n) (c'.resolve index n)

variable [Scalar α]

theorem LooksUpLike.compileSlide (h : LooksUpLike R Excused c c') (topic : Option String)
    (total index : Nat) (s : Slide α) :
    RunsLike R Excused (c.compileSlide topic total index s)
      (c'.compileSlide topic total index s) := by
  rw [Compiler.compileSlide, Compiler.compileSlide, h.canvas, h.palette]
  refine (runsLike_mapM fun n _ => h.resolve index n).bind fun refs => ?_
  exact (runsLike_ofExcept _).bind fun is => runsLike_pure _

theorem LooksUpLike.compile (h : LooksUpLike R Excused c c') (d : Deck α) :
    RunsLike R Excused (c.compile d) (c'.compile d) := by
  rw [Compiler.compile, Compiler.compile, h.canvas]
  split
  · exact runsLike_ofExcept _
  · rw [compileSlides_eq_mapM, compileSlides_eq_mapM]
    exact (runsLike_mapM fun p _ => h.compileSlide _ _ _ _).bind fun _ => runsLike_pure _

omit [Scalar α] in
theorem LooksUpLike.compileData {c : Compiler Float σ} {c' : Compiler Float τ}
    (h : LooksUpLike R Excused c c') (data : Json) :
    RunsLike R Excused (c.compileData data) (c'.compileData data) :=
  (runsLike_ofExcept _).bind fun d => h.compile d

end Compiler

end DeckPress
