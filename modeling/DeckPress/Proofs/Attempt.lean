import DeckPress.Attempt
import Mathlib.Data.List.Forall2

/-!
# Outcomes of attempts

How the outcome of a composed attempt comes from those of its parts. A traversal that returns has
treated its items one after the other, each in the state that the one before left behind; and an
attempt all of whose parts return from every state returns from every state.
-/
namespace DeckPress

theorem bind_eq_ok {ε α β : Type} {x : Except ε α} {f : α → Except ε β} {b : β} :
    x >>= f = .ok b ↔ ∃ a, x = .ok a ∧ f a = .ok b := by
  cases x with
  | error e => simp [bind, Except.bind]
  | ok a => simp [bind, Except.bind]

theorem pure_eq_ok {ε α : Type} {a b : α} : (pure a : Except ε α) = .ok b ↔ a = b := by
  simp [pure, Except.pure]

theorem exists_bind_pure_eq_ok {ε α β : Type} {x : Except ε α} {f : α → β} :
    (∃ b, (x >>= fun a => pure (f a)) = .ok b) ↔ ∃ a, x = .ok a := by
  simp only [bind_eq_ok, pure_eq_ok]
  constructor
  · rintro ⟨_, a, ha, rfl⟩
    exact ⟨a, ha⟩
  · rintro ⟨a, ha⟩
    exact ⟨f a, a, ha, rfl⟩

theorem mapError_eq_ok {ε ε' β : Type} {x : Except ε β} {f : ε → ε'} {b : β} :
    x.mapError f = .ok b ↔ x = .ok b := by
  cases x <;> simp [Except.mapError]

theorem mapError_eq_error {ε ε' β : Type} {x : Except ε β} {f : ε → ε'} {e : ε'} :
    x.mapError f = .error e ↔ ∃ e', x = .error e' ∧ e = f e' := by
  cases x <;> simp [Except.mapError, eq_comm]

theorem map_eq_ok {ε α β : Type} {x : Except ε α} {f : α → β} {b : β} :
    x.map f = .ok b ↔ ∃ a, x = .ok a ∧ f a = b := by
  cases x <;> simp [Except.map]

theorem map_const_eq_ok {ε β : Type} {x : Except ε β} :
    (x.map fun _ => ()) = .ok () ↔ ∃ b, x = .ok b := by
  cases x <;> simp [Except.map]

/-- What is seen to be no error is a result. -/
theorem exists_eq_ok_of_isOk {ε α : Type} {x : Except ε α} (h : x.isOk = true) :
    ∃ a, x = .ok a := by
  cases x with
  | ok a => exact ⟨a, rfl⟩
  | error e => cases h

theorem exists_eq_ok_of_any {ε α : Type} {x : Except ε α} {p : α → Bool}
    (h : x.toOption.any p = true) : ∃ a, x = .ok a ∧ p a = true := by
  cases x with
  | ok a => exact ⟨a, rfl, h⟩
  | error e => cases h

theorem mapM_eq_ok {ε α β : Type} {f : α → Except ε β} {as : List α} {bs : List β} :
    as.mapM f = .ok bs ↔ List.Forall₂ (fun a b => f a = .ok b) as bs := by
  induction as generalizing bs with
  | nil =>
    rw [List.mapM_nil, pure_eq_ok, List.forall₂_nil_left_iff]
    exact eq_comm
  | cons a as ih =>
    simp only [List.mapM_cons, bind_eq_ok, pure_eq_ok, ih, List.forall₂_cons_left_iff]
    constructor
    · rintro ⟨b, hb, bs', hbs, rfl⟩
      exact ⟨b, bs', hb, hbs, rfl⟩
    · rintro ⟨b, bs', hb, hbs, rfl⟩
      exact ⟨b, hb, bs', hbs, rfl⟩

theorem exists_mapM_eq_ok {ε α β : Type} {f : α → Except ε β} {as : List α} :
    (∃ bs, as.mapM f = .ok bs) ↔ ∀ a ∈ as, ∃ b, f a = .ok b := by
  induction as with
  | nil => exact iff_of_true ⟨[], mapM_eq_ok.2 .nil⟩ nofun
  | cons a as ih =>
    rw [List.forall_mem_cons, ← ih]
    simp only [List.mapM_cons, bind_eq_ok, pure_eq_ok]
    constructor
    · rintro ⟨_, b, hb, bs, hbs, rfl⟩
      exact ⟨⟨b, hb⟩, bs, hbs⟩
    · rintro ⟨⟨b, hb⟩, bs, hbs⟩
      exact ⟨_, b, hb, bs, hbs, rfl⟩

theorem forall₂_eq_iff_map_eq {α β γ : Type} {f : α → γ} {g : β → γ} {as : List α} {bs : List β} :
    List.Forall₂ (fun a b => f a = g b) as bs ↔ as.map f = bs.map g := by
  rw [← List.forall₂_eq_eq_eq, List.forall₂_map_left_iff, List.forall₂_map_right_iff]

theorem exists_of_forall₂_left {α β : Type} {R : α → β → Prop} {as : List α} {bs : List β}
    (h : List.Forall₂ R as bs) {a : α} (ha : a ∈ as) : ∃ b ∈ bs, R a b := by
  induction h with
  | nil => cases ha
  | cons hab _ ih =>
    rcases List.mem_cons.1 ha with rfl | ha
    · exact ⟨_, List.mem_cons_self, hab⟩
    · obtain ⟨b, hb, hR⟩ := ih ha
      exact ⟨b, List.mem_cons_of_mem _ hb, hR⟩

theorem exists_of_forall₂_right {α β : Type} {R : α → β → Prop} {as : List α} {bs : List β}
    (h : List.Forall₂ R as bs) {b : β} (hb : b ∈ bs) : ∃ a ∈ as, R a b :=
  exists_of_forall₂_left h.flip hb

/-- What holds of an item if and only if it holds of its partner holds of all items alike. -/
theorem forall_mem_iff_of_forall₂ {α β : Type} {P : α → Prop} {Q : β → Prop} {as : List α}
    {bs : List β} (h : List.Forall₂ (fun a b => P a ↔ Q b) as bs) :
    (∀ a ∈ as, P a) ↔ ∀ b ∈ bs, Q b := by
  induction h with
  | nil => simp
  | cons hab _ ih => rw [List.forall_mem_cons, List.forall_mem_cons, hab, ih]

/-- The items at a position belong together. -/
theorem forall₂_getElem? {α β : Type} {R : α → β → Prop} {as : List α} {bs : List β}
    (h : List.Forall₂ R as bs) {i : Nat} {a : α} {b : β} (ha : as[i]? = some a)
    (hb : bs[i]? = some b) : R a b := by
  refine List.forall₂_zip h (List.mem_of_getElem? (i := i) ?_)
  simp [List.getElem?_zip_eq_some, ha, hb]

/-- What belongs to the same items belongs together. -/
theorem forall₂_of_common {α β γ : Type} {P : α → β → Prop} {Q : α → γ → Prop} {R : β → γ → Prop}
    {as : List α} {bs : List β} {cs : List γ} (h : List.Forall₂ P as bs)
    (h' : List.Forall₂ Q as cs) (hR : ∀ a b c, P a b → Q a c → R b c) :
    List.Forall₂ R bs cs := by
  induction h generalizing cs with
  | nil =>
    cases h'
    exact .nil
  | cons hP _ ih =>
    cases h' with
    | cons hQ htail => exact .cons (hR _ _ _ hP hQ) (ih htail)

namespace Attempt

variable {ε ε' σ α β : Type}

@[simp] theorem outcome_pure (a : α) (s : σ) :
    outcome (pure a : Attempt ε σ α) s = (.ok a, s) := rfl

@[simp] theorem outcome_ofExcept (x : Except ε α) (s : σ) : outcome (ofExcept x) s = (x, s) := rfl

@[simp] theorem outcome_ofState (x : StateM σ α) (s : σ) :
    outcome (ofState x : Attempt ε σ α) s = (.ok (x s).1, (x s).2) := rfl

theorem outcome_bind (x : Attempt ε σ α) (f : α → Attempt ε σ β) (s : σ) :
    outcome (x >>= f) s =
      match outcome x s with
      | (.ok a, s') => outcome (f a) s'
      | (.error e, s') => (.error e, s') := by
  change (ExceptT.bindCont f (x s).1) (x s).2 = _
  rcases h : x s with ⟨⟨e⟩ | ⟨a⟩, s'⟩ <;> simp only [outcome, h] <;> rfl

/-- A sequence returns what its second part makes of what the first one returns. -/
theorem outcome_bind_eq_ok {x : Attempt ε σ α} {f : α → Attempt ε σ β} {s s' : σ} {b : β} :
    outcome (x >>= f) s = (.ok b, s') ↔
      ∃ a t, outcome x s = (.ok a, t) ∧ outcome (f a) t = (.ok b, s') := by
  rw [outcome_bind]
  rcases h : outcome x s with ⟨⟨e⟩ | ⟨a⟩, t⟩
  · simp
  · simp only [Prod.mk.injEq, Except.ok.injEq]
    constructor
    · intro hf
      exact ⟨a, t, ⟨rfl, rfl⟩, hf⟩
    · rintro ⟨_, _, ⟨rfl, rfl⟩, hf⟩
      exact hf

theorem outcome_ofExcept_bind_eq_ok {x : Except ε α} {f : α → β} {s s' : σ} {b : β} :
    outcome (ofExcept (x >>= fun a => pure (f a))) s = (.ok b, s') ↔
      ∃ a, x = .ok a ∧ b = f a ∧ s' = s := by
  simp only [outcome_ofExcept, Prod.mk.injEq, bind_eq_ok, pure_eq_ok]
  constructor
  · rintro ⟨⟨a, ha, rfl⟩, rfl⟩
    exact ⟨a, ha, rfl, rfl⟩
  · rintro ⟨a, ha, rfl, rfl⟩
    exact ⟨⟨a, ha, rfl⟩, rfl⟩

theorem outcome_adapt (x : Attempt ε σ α) (f : ε → ε') (s : σ) :
    outcome (x.adapt f) s = ((outcome x s).1.mapError f, (outcome x s).2) := by
  change ((x s).1.mapError f, (x s).2) = _
  rfl

theorem outcome_adapt_eq_ok {x : Attempt ε σ α} {f : ε → ε'} {s s' : σ} {a : α} :
    outcome (x.adapt f) s = (.ok a, s') ↔ outcome x s = (.ok a, s') := by
  rw [outcome_adapt]
  rcases h : outcome x s with ⟨⟨e⟩ | ⟨a⟩, t⟩ <;> simp [Except.mapError]

/-- The items are treated in turn: from a state, with results, to a state. -/
inductive Traverses (f : α → Attempt ε σ β) : List α → σ → List β → σ → Prop
  | nil (s : σ) : Traverses f [] s [] s
  | cons {a : α} {as : List α} {b : β} {bs : List β} {s t s' : σ}
      (head : outcome (f a) s = (.ok b, t)) (tail : Traverses f as t bs s') :
      Traverses f (a :: as) s (b :: bs) s'

theorem outcome_mapM_eq_ok {f : α → Attempt ε σ β} {as : List α} {bs : List β} {s s' : σ} :
    outcome (as.mapM f) s = (.ok bs, s') ↔ Traverses f as s bs s' := by
  induction as generalizing s s' bs with
  | nil =>
    rw [List.mapM_nil, outcome_pure]
    constructor
    · rintro ⟨⟩
      exact .nil _
    · rintro ⟨⟩
      rfl
  | cons a as ih =>
    simp only [List.mapM_cons, outcome_bind_eq_ok, outcome_pure, ih]
    constructor
    · rintro ⟨b, t, hb, bs', t', htail, hbs⟩
      cases hbs
      exact .cons hb htail
    · rintro (_ | ⟨hb, htail⟩)
      exact ⟨_, _, hb, _, _, htail, rfl⟩

theorem Traverses.forall₂ {f : α → Attempt ε σ β} {as : List α} {bs : List β} {s s' : σ}
    (h : Traverses f as s bs s') :
    List.Forall₂ (fun a b => ∃ t t', outcome (f a) t = (.ok b, t')) as bs := by
  induction h with
  | nil => exact .nil
  | cons head _ ih => exact .cons ⟨_, _, head⟩ ih

theorem Traverses.append {f : α → Attempt ε σ β} {as as' : List α} {bs bs' : List β} {s t s' : σ}
    (h : Traverses f as s bs t) (h' : Traverses f as' t bs' s') :
    Traverses f (as ++ as') s (bs ++ bs') s' := by
  induction h with
  | nil s => exact h'
  | cons head _ ih => exact .cons head (ih h')

/-- Items with their positions: the result at a position belongs to the item at that position. -/
theorem forall₂_zipIdx_getElem? {R : α × Nat → β → Prop} {as : List α} {bs : List β}
    (h : List.Forall₂ R as.zipIdx bs) {i : Nat} {a : α} {b : β} (ha : as[i]? = some a)
    (hb : bs[i]? = some b) : R (a, i) b :=
  forall₂_getElem? h (by simp [ha]) hb

theorem exists_of_isOk {x : Attempt ε σ α} {s : σ} (h : (x.outcome s).1.isOk = true) :
    ∃ a t, x.outcome s = (.ok a, t) := by
  obtain ⟨a, ha⟩ := exists_eq_ok_of_isOk h
  exact ⟨a, (x.outcome s).2, Prod.ext ha rfl⟩

theorem exists_of_any {x : Attempt ε σ α} {s : σ} {p : α → Bool}
    (h : (x.outcome s).1.toOption.any p = true) : ∃ a t, x.outcome s = (.ok a, t) ∧ p a = true := by
  obtain ⟨a, ha, hp⟩ := exists_eq_ok_of_any h
  exact ⟨a, (x.outcome s).2, Prod.ext ha rfl, hp⟩

/-- The attempt returns, from whatever state. -/
def Returns (x : Attempt ε σ α) : Prop := ∀ s, ∃ a t, outcome x s = (.ok a, t)

theorem returns_pure (a : α) : Returns (pure a : Attempt ε σ α) := fun s => ⟨a, s, rfl⟩

theorem returns_ofExcept {x : Except ε α} {a : α} (h : x = .ok a) :
    Returns (ofExcept x : Attempt ε σ α) := fun s => ⟨a, s, by rw [outcome_ofExcept, h]⟩

theorem Returns.bind {x : Attempt ε σ α} {f : α → Attempt ε σ β} (hx : Returns x)
    (hf : ∀ a, Returns (f a)) : Returns (x >>= f) := by
  intro s
  obtain ⟨a, t, ha⟩ := hx s
  obtain ⟨b, t', hb⟩ := hf a t
  exact ⟨b, t', outcome_bind_eq_ok.2 ⟨a, t, ha, hb⟩⟩

theorem Returns.adapt {x : Attempt ε σ α} (h : Returns x) (f : ε → ε') : Returns (x.adapt f) := by
  intro s
  obtain ⟨a, t, ha⟩ := h s
  exact ⟨a, t, outcome_adapt_eq_ok.2 ha⟩

theorem returns_mapM {f : α → Attempt ε σ β} {as : List α} (h : ∀ a ∈ as, Returns (f a)) :
    Returns (as.mapM f) := by
  induction as with
  | nil => exact returns_pure []
  | cons a as ih =>
    rw [List.mapM_cons]
    have hd := h a List.mem_cons_self
    have htl := ih fun b hb => h b (List.mem_cons_of_mem a hb)
    exact hd.bind fun b => htl.bind fun bs => returns_pure (b :: bs)

end Attempt

end DeckPress
