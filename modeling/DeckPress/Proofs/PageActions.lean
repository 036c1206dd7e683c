import DeckPress.Page
import DeckPress.Proofs.Attempt
import Mathlib.Data.List.Basic

/-!
# What actions do to a session

A page is built up to twice after an action, and most of what is built is only shown. What is kept
is told here by one function on sessions, with the outside state in which the action is taken.
Building a page without an action keeps nothing.
-/
namespace DeckPress.Page

open Attempt

variable {σ : Type}

section Steps

variable (services : Services σ) (s : Settings)

/-- The presentation of a deck under some settings. -/
def rendering (d : Deck Float) : Attempt Failure σ Presentation := do
  Pipeline.present services (← Pipeline.compile (s.compiler services.search) d)

def newProduct (x : Session) (prompt : String) : Attempt Failure σ Product :=
  Pipeline.produce services (s.compiler services.search)
    (Conversation.generate services.model s.model s.slideModel.word x.turns prompt)

def editedProduct (x : Session) (d : Deck Float) (instruction : String) :
    Attempt Failure σ Product :=
  Pipeline.produce services (s.compiler services.search)
    (Conversation.edit services.model s.model s.slideModel.word x.turns d instruction)

/-- The version whose button is pressed, if there are several. -/
def Session.version? (x : Session) (pressed : Option Button) : Option (Deck Float × Nat) :=
  if x.history.length ≤ 1 then none
  else x.history.zipIdx.find? fun v => pressed == some (.version (v.2 + 1))

def Session.switched (x : Session) (d : Deck Float) (i : Nat) (t : σ) : Session :=
  match ((rendering services s d).outcome t).1 with
  | .ok p => { x with shown := some i, download := some p }
  | .error _ => { x with shown := some i }

/-- The session after a request for a deck, if something was said and there is a key to ask with. A
request that fails changes nothing. -/
def Session.requested (x : Session) (said : String) (made : Attempt Failure σ Product)
    (done : Product → Session) (t : σ) : Session :=
  if Conversation.isBlank said || s.modelKey.isEmpty then x
  else
    match (made.outcome t).1 with
    | .ok p => done p
    | .error _ => x

def Session.afterGenerate (x : Session) (prompt : String) (t : σ) : Session :=
  x.requested s prompt (newProduct services s x prompt) (x.generated · prompt) t

def Session.afterEdit (x : Session) (d : Deck Float) (instruction : String) (t : σ) : Session :=
  x.requested s instruction (editedProduct services s x d instruction) (x.edited · instruction) t

def Session.afterSwitch (x : Session) (pressed : Option Button) (t : σ) : Session :=
  match x.version? pressed with
  | some (d, i) => x.switched services s d i t
  | none => x

/-- The session after an action that is taken in an outside state. -/
def Session.next (x : Session) (t : σ) : Action → Session
  | .controls .. => x
  | .generate prompt => x.afterGenerate services s prompt t
  | .edit instruction =>
    match x.current with
    | some d => x.afterEdit services s d instruction t
    | none => x
  | .version n =>
    match x.current with
    | some _ => x.afterSwitch services s (some (.version n)) t
    | none => x
  | .clear => {}

end Steps

variable {services : Services σ} {s : Settings}

theorem session_fail (b : Build) (f : Failure) : (b.fail f).session = b.session := by
  unfold Build.fail
  split <;> rfl

theorem run_bind_apply {ε α β : Type} (x : Attempt ε σ α) (f : Except ε α → StateM σ β) (t : σ) :
    (x.run >>= f) t = f (x.outcome t).1 (x.outcome t).2 := rfl

theorem session_generate (prompt : String) (b : Build) (t : σ) :
    (generate services s prompt b t).1.session =
      b.session.afterGenerate services s prompt t := by
  unfold generate Session.afterGenerate Session.requested
  by_cases hp : Conversation.isBlank prompt = true
  · rw [if_pos hp, hp, Bool.true_or]
    rfl
  · by_cases hk : s.modelKey.isEmpty = true
    · rw [if_neg hp, hk, Bool.or_true]
      rfl
    · rw [if_neg hp, if_neg hk, if_neg (by simp [hp, hk]), ← newProduct, run_bind_apply]
      rcases (newProduct services s b.session prompt).outcome t with ⟨⟨f⟩ | ⟨p⟩, t'⟩
      · exact session_fail b f
      · rfl

theorem session_edit (d : Deck Float) (instruction : String) (b : Build) (t : σ) :
    (edit services s d instruction b t).1.session =
      b.session.afterEdit services s d instruction t := by
  unfold edit Session.afterEdit Session.requested
  by_cases h : (Conversation.isBlank instruction || s.modelKey.isEmpty) = true
  · rw [if_pos h, if_pos h]
    rfl
  · rw [if_neg h, if_neg h, ← editedProduct, run_bind_apply]
    rcases (editedProduct services s b.session d instruction).outcome t with ⟨⟨f⟩ | ⟨p⟩, t'⟩
    · exact session_fail b f
    · rfl

theorem switch_spec (i : Nat) (d : Deck Float) (b : Build) (t : σ) :
    (switch services s i d b t).1.session = b.session.switched services s d i t ∧
      (switch services s i d b t).1.isHalted = true := by
  unfold switch Session.switched
  rw [← rendering, run_bind_apply]
  rcases (rendering services s d).outcome t with ⟨⟨f⟩ | ⟨p⟩, t'⟩
  · dsimp only
    cases f.report? <;> exact ⟨rfl, rfl⟩
  · exact ⟨rfl, rfl⟩

theorem version_of_halted {pressed : Option Button} {i : Nat} {d : Deck Float} {b : Build}
    (h : b.isHalted = true) (t : σ) : version services s pressed i d b t = (b, t) := by
  rw [version, if_pos h]
  rfl

theorem versions_of_halted {pressed : Option Button} {i : Nat} {ds : List (Deck Float)} {b : Build}
    (h : b.isHalted = true) (t : σ) : versions services s pressed i ds b t = (b, t) := by
  induction ds generalizing i with
  | nil => rfl
  | cons d ds ih =>
    change versions services s pressed (i + 1) ds (version services s pressed i d b t).1
      (version services s pressed i d b t).2 = (b, t)
    rw [version_of_halted h]
    exact ih

/-- The buttons of the versions: the first one that is pressed switches to its version. -/
theorem session_versions (pressed : Option Button) (i : Nat) (ds : List (Deck Float)) {b : Build}
    (h : b.isHalted = false) (t : σ) :
    (versions services s pressed i ds b t).1.session =
      match (ds.zipIdx i).find? fun v => pressed == some (.version (v.2 + 1)) with
      | some (d, j) => b.session.switched services s d j t
      | none => b.session := by
  induction ds generalizing i b with
  | nil => rfl
  | cons d ds ih =>
    change (versions services s pressed (i + 1) ds (version services s pressed i d b t).1
      (version services s pressed i d b t).2).1.session = _
    rw [List.zipIdx_cons, List.find?_cons, version, if_neg (by simp [h])]
    dsimp only
    by_cases hp : (pressed == some (.version (i + 1))) = true
    · rw [if_pos hp, hp]
      obtain ⟨hs, hh⟩ := @switch_spec σ services s i d
        (b.add [.button (.version (i + 1)) (b.session.shown == some i)]) t
      rw [versions_of_halted hh]
      exact hs
    · rw [if_neg hp, Bool.eq_false_iff.2 hp]
      exact ih (i + 1) h

theorem version?_eq_some {x : Session} {pressed : Option Button} {d : Deck Float} {i : Nat}
    (h : x.version? pressed = some (d, i)) : x.history[i]? = some d := by
  unfold Session.version? at h
  split at h
  · cases h
  · exact List.mem_zipIdx_iff_getElem?.1 (List.mem_of_find?_eq_some h)

theorem session_historyPart (pressed : Option Button) {b : Build} (h : b.isHalted = false)
    (t : σ) :
    (historyPart services s pressed b t).1.session =
      b.session.afterSwitch services s pressed t := by
  unfold historyPart Session.afterSwitch Session.version?
  rw [h, Bool.false_or]
  by_cases hl : b.session.history.length ≤ 1
  · rw [if_pos (decide_eq_true hl), if_pos hl]
    rfl
  · rw [if_neg (by simpa using hl), if_neg hl]
    exact session_versions (b := b.add _) pressed 0 b.session.history h t

theorem afterSwitch_of_ne {x : Session} {pressed : Option Button}
    (h : ∀ n, pressed ≠ some (.version n)) (t : σ) : x.afterSwitch services s pressed t = x := by
  have hnone : x.version? pressed = none := by
    unfold Session.version?
    split
    · rfl
    · exact List.find?_eq_none.2 fun v _ => by simpa using h (v.2 + 1)
  rw [Session.afterSwitch, hnone]

theorem session_historyPart_of_ne {pressed : Option Button} (h : ∀ n, pressed ≠ some (.version n))
    (b : Build) (t : σ) : (historyPart services s pressed b t).1.session = b.session := by
  cases hb : b.isHalted with
  | true =>
    rw [historyPart, hb, Bool.true_or, if_pos rfl]
    rfl
  | false => rw [session_historyPart pressed hb, afterSwitch_of_ne h]

theorem session_deckPart_edit (instruction : String) (d : Deck Float) (b : Build) (t : σ) :
    (deckPart services s (some (.edit instruction)) d b t).1.session =
      b.session.afterEdit services s d instruction t := by
  let b' := b.add (preview d ++ [.button .edit false])
  change (historyPart services s (some .edit) (edit services s d instruction b' t).1
    (edit services s d instruction b' t).2).1.session = _
  rw [session_historyPart_of_ne (by simp), session_edit]
  rfl

theorem session_deckPart {a : Option Action} (ha : ∀ i, a ≠ some (.edit i)) (d : Deck Float)
    {b : Build} (h : b.isHalted = false) (t : σ) :
    (deckPart services s a d b t).1.session =
      b.session.afterSwitch services s (a.bind Action.button?) t := by
  unfold deckPart
  split
  · next instruction => exact absurd rfl (ha instruction)
  · exact session_historyPart (b := b.add _) _ h t

theorem session_mainPart_generate (prompt : String) (x : Session) (t : σ) :
    (mainPart services s (some (.generate prompt)) x t).1.session =
      x.afterGenerate services s prompt t := by
  let b : Build := { session := x, shown := [.button .generate false] }
  let r := generate services s prompt b t
  have hr : r.1.session = x.afterGenerate services s prompt t := session_generate prompt b t
  change ((if r.1.isHalted = true then pure r.1 else
    match r.1.session.current with
    | some d => deckPart services s (some (.generate prompt)) d r.1
    | none => pure r.1) r.2).1.session = _
  split
  · exact hr
  · next hh =>
    -- the page goes on below a new deck, but no button there is pressed
    cases r.1.session.current with
    | some d =>
      change (deckPart services s (some (.generate prompt)) d r.1 r.2).1.session = _
      rw [session_deckPart (by simp) d (by simpa using hh), hr]
      exact afterSwitch_of_ne (by simp [Action.button?]) r.2
    | none => exact hr

theorem session_mainPart {a : Option Action} (ha : ∀ prompt, a ≠ some (.generate prompt))
    (x : Session) (t : σ) :
    (mainPart services s a x t).1.session =
      match x.current with
      | some d =>
        (deckPart services s a d { session := x, shown := [.button .generate false] } t).1.session
      | none => x := by
  unfold mainPart
  split
  · next prompt => exact absurd rfl (ha prompt)
  · let b : Build := { session := x, shown := [.button .generate false] }
    change ((match x.current with
      | some d => deckPart services s a d b
      | none => pure b) t).1.session = _
    cases x.current <;> rfl

theorem session_build_none (x : Session) (t : σ) :
    (build services s none x t).1.session = x := by
  change (mainPart services s none x t).1.session = x
  rw [session_mainPart (by simp)]
  cases x.current with
  | some d =>
    dsimp only
    rw [session_deckPart (by simp) d rfl]
    exact afterSwitch_of_ne (by simp) t
  | none => rfl

theorem session_build (a : Action) (x : Session) (t : σ) :
    (build services s (some a) x t).1.session = x.next services s t a := by
  cases a with
  | clear => rfl
  | generate prompt => exact session_mainPart_generate prompt x t
  | edit instruction =>
    change (mainPart services s (some (.edit instruction)) x t).1.session = _
    rw [session_mainPart (by simp), Session.next]
    cases x.current with
    | some d => exact session_deckPart_edit instruction d _ t
    | none => rfl
  | version n =>
    change (mainPart services s (some (.version n)) x t).1.session = _
    rw [session_mainPart (by simp), Session.next]
    cases x.current with
    | some d => exact session_deckPart (by simp) d rfl t
    | none => rfl
  | controls schema canvas strict =>
    change (mainPart services s (some (.controls schema canvas strict)) x t).1.session = _
    rw [session_mainPart (by simp), Session.next]
    cases x.current with
    | some d =>
      dsimp only
      rw [session_deckPart (by simp) d rfl]
      exact afterSwitch_of_ne (by simp [Action.button?]) t
    | none => rfl

theorem session_settle (a : Option Action) (x : Session) (t : σ) :
    (settle services s a x t).1.session = (build services s a x t).1.session := by
  let r := build services s a x t
  change ((if (r.1.halt == some .again) = true then build services s none r.1.session
    else pure r.1) r.2).1.session = r.1.session
  split
  · exact session_build_none r.1.session r.2
  · rfl

theorem act_of_button {a : Action} {b : Button} (hb : a.button? = some b) (p : State) :
    act services s p a =
      if p.offers b then do
        return .ok (ofBuild p.controls
          (← settle services (p.controls.apply s) (some a) p.session))
      else return .error b := by
  cases a <;> cases hb <;> rfl

/-- The page after an action in an outside state; without its button nothing happens. -/
def State.after (services : Services σ) (s : Settings) (p : State) (a : Action) (t : σ) : State :=
  match (act services s p a t).1 with
  | .ok (q, _) => q
  | .error _ => p

theorem session_after (p : State) (a : Action) (t : σ) :
    (p.after services s a t).session =
      if a.button?.all p.offers then p.session.next services (p.controls.apply s) t a
      else p.session := by
  unfold State.after
  cases hb : a.button? with
  | some b =>
    rw [act_of_button hb, Option.all_some]
    by_cases ho : p.offers b = true
    · rw [if_pos ho, if_pos ho]
      change (settle services (p.controls.apply s) (some a) p.session t).1.session = _
      rw [session_settle, session_build]
    · rw [if_neg ho, if_neg ho]
      rfl
  | none =>
    cases a with
    | controls schema canvas strict =>
      let c : Controls := ⟨schema.getD p.controls.schema, canvas.getD p.controls.canvas,
        strict.getD p.controls.strict⟩
      change (settle services (c.apply s) none p.session t).1.session = p.session
      rw [session_settle, session_build_none]
    | _ => cases hb

/-- The page after some actions, each with the outside state in which it is taken. -/
def State.follow (services : Services σ) (s : Settings) (p : State) (visits : List (Action × σ)) :
    State :=
  visits.foldl (fun q v => q.after services s v.1 v.2) p

theorem follow_concat (p : State) (visits : List (Action × σ)) (v : Action × σ) :
    p.follow services s (visits ++ [v]) =
      (p.follow services s visits).after services s v.1 v.2 := by
  rw [State.follow, List.foldl_append]
  rfl

/-- The page when it is first seen, in an outside state. -/
def State.first (services : Services σ) (s : Settings) (t : σ) : State := (start services s t).1.1

/-- The page that some visits lead to, from its first sight on. -/
def State.reached (services : Services σ) (s : Settings) (t₀ : σ) (visits : List (Action × σ)) :
    State :=
  (State.first services s t₀).follow services s visits

theorem session_first (t : σ) : (State.first services s t).session = {} := by
  change (settle services ((Controls.ofSettings s).apply s) none {} t).1.session = {}
  rw [session_settle, session_build_none]

end DeckPress.Page
