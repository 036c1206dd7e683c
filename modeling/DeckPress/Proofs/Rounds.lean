import DeckPress.Proofs.Attempt

/-!
# Rounds

A round goes through a list for what it does, not for results. It succeeds if its items do so one
after another, each in the state that the one before left behind, and it fails as the first item
does that fails. A traversal whose results are thrown away is a round.
-/
namespace DeckPress.Attempt

variable {ε σ α β : Type}

/-- The items are gone through in turn, each leading from one state to the next. -/
inductive Successively (R : α → σ → σ → Prop) : List α → σ → σ → Prop
  | nil (s : σ) : Successively R [] s s
  | cons {a : α} {as : List α} {s t s' : σ} (head : R a s t) (tail : Successively R as t s') :
      Successively R (a :: as) s s'

theorem Successively.imp {R R' : α → σ → σ → Prop} {as : List α} {s s' : σ}
    (h : Successively R as s s') (hR : ∀ a t t', R a t t' → R' a t t') :
    Successively R' as s s' := by
  induction h with
  | nil s => exact .nil s
  | cons head _ ih => exact .cons (hR _ _ _ head) ih

/-- The attempt for what it does, without its result. -/
def effect (x : Attempt ε σ α) : Attempt ε σ Unit := x >>= fun _ => pure ()

theorem outcome_effect (x : Attempt ε σ α) (s : σ) :
    outcome (effect x) s = ((outcome x s).1.map fun _ => (), (outcome x s).2) := by
  rw [effect, outcome_bind]
  rcases outcome x s with ⟨⟨e⟩ | ⟨a⟩, t⟩ <;> rfl

theorem outcome_effect_eq_ok {x : Attempt ε σ α} {s s' : σ} :
    outcome (effect x) s = (.ok (), s') ↔ ∃ a, outcome x s = (.ok a, s') := by
  rw [outcome_effect]
  rcases outcome x s with ⟨⟨e⟩ | ⟨a⟩, t⟩ <;> simp [Except.map]

theorem outcome_effect_eq_error {x : Attempt ε σ α} {s s' : σ} {e : ε} :
    outcome (effect x) s = (.error e, s') ↔ outcome x s = (.error e, s') := by
  rw [outcome_effect]
  rcases outcome x s with ⟨⟨e'⟩ | ⟨a⟩, t⟩ <;> simp [Except.map]

theorem effect_bind (x : Attempt ε σ α) (f : α → Attempt ε σ β) :
    effect (x >>= f) = x >>= fun a => effect (f a) := by
  simp only [effect, bind_assoc]

theorem effect_mapM (f : α → Attempt ε σ β) (as : List α) :
    effect (as.mapM f) = forM as fun a => effect (f a) := by
  induction as with
  | nil => simp [effect]
  | cons a as ih =>
    calc effect ((a :: as).mapM f)
        = f a >>= fun _ => as.mapM f >>= fun _ => pure () := by
          simp only [List.mapM_cons, effect, bind_assoc, pure_bind]
      _ = effect (f a) >>= fun _ => effect (as.mapM f) := by
          simp only [effect, bind_assoc, pure_bind]
      _ = forM (a :: as) fun a => effect (f a) := by rw [ih, List.forM_cons]

theorem forM_flatMap (g : α → List β) (f : β → Attempt ε σ Unit) (as : List α) :
    forM (as.flatMap g) f = forM as fun a => forM (g a) f := by
  induction as with
  | nil => rfl
  | cons a as ih => rw [List.flatMap_cons, List.forM_append, List.forM_cons, ih]

theorem forM_congr {f g : α → Attempt ε σ Unit} {as : List α} (h : ∀ a ∈ as, f a = g a) :
    forM as f = forM as g := by
  induction as with
  | nil => rfl
  | cons a as ih =>
    rw [List.forall_mem_cons] at h
    rw [List.forM_cons, List.forM_cons, h.1, ih h.2]

theorem outcome_forM_eq_ok {f : α → Attempt ε σ Unit} {as : List α} {s s' : σ} :
    outcome (forM as f) s = (.ok (), s') ↔
      Successively (fun a t t' => outcome (f a) t = (.ok (), t')) as s s' := by
  induction as generalizing s with
  | nil =>
    rw [List.forM_nil, outcome_pure]
    constructor
    · rintro ⟨⟩
      exact .nil _
    · rintro ⟨⟩
      rfl
  | cons a as ih =>
    rw [List.forM_cons, outcome_bind_eq_ok]
    constructor
    · rintro ⟨_, t, ha, has⟩
      exact .cons ha (ih.1 has)
    · rintro (_ | ⟨ha, has⟩)
      exact ⟨(), _, ha, ih.2 has⟩

theorem outcome_bind_eq_error {x : Attempt ε σ α} {f : α → Attempt ε σ β} {s s' : σ} {e : ε} :
    outcome (x >>= f) s = (.error e, s') ↔ outcome x s = (.error e, s') ∨
      ∃ a t, outcome x s = (.ok a, t) ∧ outcome (f a) t = (.error e, s') := by
  rw [outcome_bind]
  rcases outcome x s with ⟨⟨e'⟩ | ⟨a⟩, t⟩ <;> simp

/-- A round that fails has come as far as its first item that fails. -/
theorem outcome_forM_eq_error {f : α → Attempt ε σ Unit} {as : List α} {s s' : σ} {e : ε} :
    outcome (forM as f) s = (.error e, s') ↔
      ∃ before a after t, as = before ++ a :: after ∧
        Successively (fun a t t' => outcome (f a) t = (.ok (), t')) before s t ∧
        outcome (f a) t = (.error e, s') := by
  induction as generalizing s with
  | nil => simp
  | cons a as ih =>
    rw [List.forM_cons, outcome_bind_eq_error]
    constructor
    · rintro (ha | ⟨_, t, ha, has⟩)
      · exact ⟨[], a, as, s, rfl, .nil s, ha⟩
      · obtain ⟨before, b, after, u, rfl, hbefore, hb⟩ := ih.1 has
        exact ⟨a :: before, b, after, u, rfl, .cons ha hbefore, hb⟩
    · rintro ⟨before, b, after, t, has, hbefore, hb⟩
      cases hbefore with
      | nil =>
        cases has
        exact .inl hb
      | cons hfirst hrest =>
        cases has
        exact .inr ⟨(), _, hfirst, ih.2 ⟨_, b, after, t, rfl, hrest, hb⟩⟩

/-- However it ends, the attempt leaves in a state of this kind if it finds one. -/
def Keeps (I : σ → Prop) (x : Attempt ε σ α) : Prop := ∀ s, I s → I (outcome x s).2

variable {I : σ → Prop}

theorem keeps_ofExcept (x : Except ε α) : Keeps I (ofExcept x) := fun _ hs => hs

theorem Keeps.bind {x : Attempt ε σ α} {f : α → Attempt ε σ β} (hx : Keeps I x)
    (hf : ∀ a, Keeps I (f a)) : Keeps I (x >>= f) := by
  intro s hs
  have hleft := hx s hs
  rw [outcome_bind]
  rcases hout : outcome x s with ⟨⟨e⟩ | ⟨a⟩, t⟩
  · rwa [hout] at hleft
  · rw [hout] at hleft
    exact hf a t hleft

theorem keeps_effect_iff {x : Attempt ε σ α} : Keeps I (effect x) ↔ Keeps I x := by
  simp only [Keeps, outcome_effect]

theorem keeps_forM {f : α → Attempt ε σ Unit} {as : List α} (h : ∀ a ∈ as, Keeps I (f a)) :
    Keeps I (forM as f) := by
  induction as with
  | nil => exact keeps_ofExcept (.ok ())
  | cons a as ih =>
    rw [List.forall_mem_cons] at h
    rw [List.forM_cons]
    exact h.1.bind fun _ => ih h.2

end DeckPress.Attempt
