import DeckPress.Proofs.Compilation
import DeckPress.Proofs.PageActions
import DeckPress.Rehearsal

/-!
# What a model is asked

Where services keep a log of what the model is asked, looking images up and having pictures leaves
it as it is. So what a page asks of the model can be told from the action alone: an action asks once
or not at all, and building the page for the eye asks nothing.
-/
namespace DeckPress

open Conversation (Request)

/-- The services keep a log of the requests to the model. -/
structure Services.Logs {σ : Type} (services : Services σ) (log : σ → List Request) : Prop where
  model : ∀ r t, log (services.model r t).2 = log t ++ [r]
  search : ∀ c t, log (services.search c t).2 = log t
  fetch : ∀ url t, log (services.fetch url t).2 = log t

theorem Rehearsal.services_logs (pictures : String → Reply Picture.Bytes) :
    (services pictures).Logs fun u => u.model.asked where
  model r u := by
    obtain ⟨⟨_ | ⟨reply, replies⟩, asked⟩, _, _, _⟩ := u <;> rfl
  search c u := rfl
  fetch url u := rfl

section Asking

variable {σ α β ε ε' : Type} {log : σ → List Request}

/-- The computation adds these requests to the log, from whatever state. -/
def Asks (log : σ → List Request) (rs : List Request) (m : StateM σ α) : Prop :=
  ∀ t, log (m t).2 = log t ++ rs

variable {rs : List Request}

theorem asks_nil_iff {m : StateM σ α} : Asks log [] m ↔ ∀ t, log (m t).2 = log t := by
  simp only [Asks, List.append_nil]

theorem asks_pure (a : α) : Asks log [] (pure a : StateM σ α) := asks_nil_iff.2 fun _ => rfl

theorem Asks.bind {m : StateM σ α} {f : α → StateM σ β} (hm : Asks log rs m)
    (hf : ∀ a, Asks log [] (f a)) : Asks log rs (m >>= f) := by
  intro t
  change log (f (m t).1 (m t).2).2 = _
  rw [asks_nil_iff.1 (hf _), hm t]

theorem asks_ofExcept (x : Except ε α) : Asks log [] (Attempt.ofExcept x : Attempt ε σ α).run :=
  asks_nil_iff.2 fun _ => rfl

theorem asks_ofState {m : StateM σ α} (h : Asks log rs m) :
    Asks log rs (Attempt.ofState m : Attempt ε σ α).run := h

/-- A part that fails ends the attempt, with what was asked before. -/
theorem Asks.attempt_bind {x : Attempt ε σ α} {f : α → Attempt ε σ β} (hx : Asks log rs x.run)
    (hf : ∀ a, Asks log [] (f a).run) : Asks log rs (x >>= f).run := by
  intro t
  have hxt := hx t
  change log ((x >>= f).outcome t).2 = _
  change log (x.outcome t).2 = _ at hxt
  rw [Attempt.outcome_bind]
  rcases hout : x.outcome t with ⟨⟨e⟩ | ⟨a⟩, t'⟩
  · rw [hout] at hxt
    exact hxt
  · rw [hout] at hxt
    exact (asks_nil_iff.1 (hf a) t').trans hxt

theorem Asks.adapt {x : Attempt ε σ α} (h : Asks log rs x.run) (f : ε → ε') :
    Asks log rs (x.adapt f).run := by
  intro t
  change log (Attempt.outcome (x.adapt f) t).2 = _
  rw [Attempt.outcome_adapt]
  exact h t

theorem asks_mapM {f : α → Attempt ε σ β} (h : ∀ a, Asks log [] (f a).run) (as : List α) :
    Asks log [] (as.mapM f).run := by
  induction as with
  | nil => exact asks_ofExcept (.ok [])
  | cons a as ih =>
    rw [List.mapM_cons]
    exact (h a).attempt_bind fun b => ih.attempt_bind fun bs => asks_ofExcept (.ok (b :: bs))

theorem asks_foldlM {f : β → α → Attempt ε σ β} (h : ∀ b a, Asks log [] (f b a).run)
    (as : List α) (b : β) : Asks log [] (as.foldlM f b).run := by
  induction as generalizing b with
  | nil => exact asks_ofExcept (.ok b)
  | cons a as ih =>
    rw [List.foldlM_cons]
    exact (h b a).attempt_bind ih

end Asking

section Stages

variable {σ : Type} {services : Services σ} {log : σ → List Request} (h : services.Logs log)
include h

theorem asks_resolve (s : Settings) (index : Nat) (n : Need) :
    Asks log [] ((s.compiler services.search : Compiler Float σ).resolve index n).run := by
  unfold Compiler.resolve
  split
  · exact asks_ofExcept (.ok _)
  · split
    · exact asks_ofExcept _
    · next r hr =>
      have hanswer (q : Image.Request) : Asks log [] (r q).run := by
        change (if s.searchKey.isEmpty then _ else _) = some r at hr
        split at hr
        · cases hr
        · cases hr
          have hcall : Asks log [] (services.search (s.search.call
              (Image.searchQuery q.query q.text))) := asks_nil_iff.2 (h.search _)
          exact (asks_ofState hcall).attempt_bind fun _ => asks_ofExcept _
      exact ((hanswer _).adapt _).attempt_bind fun _ => asks_ofExcept _

theorem asks_compile (s : Settings) (d : Deck Float) :
    Asks log [] (Pipeline.compile (s.compiler services.search) d).run := by
  refine Asks.adapt ?_ _
  unfold Compiler.compile
  split
  · exact asks_ofExcept _
  · rw [Compiler.compileSlides_eq_mapM]
    refine (asks_mapM (fun p => ?_) _).attempt_bind fun _ => asks_ofExcept (.ok _)
    refine (asks_mapM (asks_resolve h s p.2) _).attempt_bind fun _ => ?_
    exact (asks_ofExcept _).attempt_bind fun _ => asks_ofExcept (.ok _)

theorem asks_present (g : Drawing Float) : Asks log [] (Pipeline.present services g).run := by
  have hdraw (s : Presentation.Slide) (i : Drawing.Instruction Float) :
      Asks log [] (Presentation.draw services.fetch s i).run := by
    cases i with
    | picture p =>
      have hfetch : Asks log [] (services.fetch p.url) := asks_nil_iff.2 (h.fetch p.url)
      exact (asks_ofState hfetch).attempt_bind fun _ => asks_ofExcept _
    | background color => exact asks_ofExcept _
    | shape d => exact asks_ofExcept _
    | text t => exact asks_ofExcept _
  refine Asks.adapt ?_ _
  refine (asks_ofExcept _).attempt_bind fun _ => (asks_ofExcept _).attempt_bind fun _ => ?_
  exact (asks_mapM (fun d => asks_foldlM hdraw _ _) _).attempt_bind fun _ => asks_ofExcept (.ok _)

/-- Whatever asks for the deck, the stages that follow ask nothing. -/
theorem asks_produce {rs : List Request} (s : Settings)
    {deck : Attempt Conversation.Fault σ (Deck Float)} (hd : Asks log rs deck.run) :
    Asks log rs (Pipeline.produce services (s.compiler services.search) deck).run :=
  (hd.adapt _).attempt_bind fun d => (asks_compile h s d).attempt_bind fun g =>
    (asks_present h g).attempt_bind fun _ => asks_ofExcept (.ok _)

theorem asks_ask (model : String) (m : SlideModel) (turns : List Turn) (message : String) :
    Asks log [Conversation.request model m turns message]
      (Conversation.ask services.model model m.word turns message).run := by
  have hm : Conversation.model? m.word = .ok m := by cases m <;> rfl
  have hrequest : Asks log _ (services.model (Conversation.request model m turns message)) :=
    h.model _
  rw [Conversation.ask, hm]
  exact (asks_ofState hrequest).attempt_bind fun _ => asks_ofExcept _

theorem asks_edit (model : String) (m : SlideModel) (turns : List Turn) (d : Deck Float)
    (instruction : String) :
    Asks log [Conversation.request model m (turns ++ [.said .assistant d.print])
        (Conversation.editMessage instruction)]
      (Conversation.edit services.model model m.word turns d instruction).run :=
  (asks_ask h model m _ _).attempt_bind fun _ => asks_ofExcept (.ok _)

theorem asks_generate (model : String) (m : SlideModel) (turns : List Turn) {message : String}
    (hm : Conversation.isBlank message = false) :
    Asks log [Conversation.request model m turns message]
      (Conversation.generate services.model model m.word turns message).run := by
  rw [Conversation.generate, hm]
  exact (asks_ask h model m turns message).attempt_bind fun _ => asks_ofExcept (.ok _)

end Stages

namespace Page

variable {σ : Type} {services : Services σ} {log : σ → List Request} (h : services.Logs log)
  {s : Settings}

/-- What an action asks of the model: nothing unless something was said and there is a key to ask
with. -/
def Session.requests (s : Settings) (x : Session) : Option Action → List Request
  | some (.generate prompt) =>
    if Conversation.isBlank prompt || s.modelKey.isEmpty then []
    else [Conversation.request s.model s.slideModel x.turns prompt]
  | some (.edit instruction) =>
    match x.current with
    | some d =>
      if Conversation.isBlank instruction || s.modelKey.isEmpty then []
      else [Conversation.request s.model s.slideModel (x.turns ++ [.said .assistant d.print])
        (Conversation.editMessage instruction)]
    | none => []
  | _ => []

/-- Only requests for a new deck and edits ask. -/
theorem requests_of_ne {x : Session} {a : Option Action}
    (hgenerate : ∀ prompt, a ≠ some (.generate prompt))
    (hedit : ∀ instruction, a = some (.edit instruction) → x.current = none) :
    x.requests s a = [] := by
  cases a with
  | none => rfl
  | some a =>
    cases a with
    | generate prompt => exact absurd rfl (hgenerate prompt)
    | edit instruction => rw [Session.requests, hedit instruction rfl]
    | _ => rfl

include h

theorem asks_generate (prompt : String) (b : Build) :
    Asks log (b.session.requests s (some (.generate prompt))) (generate services s prompt b) := by
  unfold generate Session.requests
  dsimp only
  by_cases hp : Conversation.isBlank prompt = true
  · rw [if_pos hp, if_pos (by simp [hp])]
    exact asks_pure _
  · by_cases hk : s.modelKey.isEmpty = true
    · rw [if_neg hp, if_pos hk, if_pos (by simp [hk])]
      exact asks_pure _
    · rw [if_neg hp, if_neg hk, if_neg (by simp [hp, hk])]
      have hdeck := DeckPress.asks_generate h s.model s.slideModel b.session.turns
        (Bool.eq_false_iff.2 hp)
      refine (asks_produce h s hdeck).bind fun made => ?_
      cases made <;> exact asks_pure _

theorem asks_edit (d : Deck Float) (instruction : String) (b : Build)
    (hd : b.session.current = some d) :
    Asks log (b.session.requests s (some (.edit instruction))) (edit services s d instruction b) := by
  unfold edit Session.requests
  rw [hd]
  dsimp only
  by_cases hsaid : (Conversation.isBlank instruction || s.modelKey.isEmpty) = true
  · rw [if_pos hsaid, if_pos hsaid]
    exact asks_pure _
  · rw [if_neg hsaid, if_neg hsaid]
    refine (asks_produce h s (DeckPress.asks_edit h _ _ _ _ _)).bind fun made => ?_
    cases made <;> exact asks_pure _

theorem asks_switch (i : Nat) (d : Deck Float) (b : Build) :
    Asks log [] (switch services s i d b) := by
  refine ((asks_compile h s d).attempt_bind fun g => asks_present h g).bind fun made => ?_
  cases made with
  | ok p => exact asks_pure _
  | error f =>
    dsimp only
    split <;> exact asks_pure _

theorem asks_version (pressed : Option Button) (i : Nat) (d : Deck Float) (b : Build) :
    Asks log [] (version services s pressed i d b) := by
  unfold version
  split
  · exact asks_pure _
  · dsimp only
    split
    · exact asks_switch h i d _
    · exact asks_pure _

theorem asks_versions (pressed : Option Button) (i : Nat) (ds : List (Deck Float)) (b : Build) :
    Asks log [] (versions services s pressed i ds b) := by
  induction ds generalizing i b with
  | nil => exact asks_pure _
  | cons d ds ih => exact (asks_version h pressed i d b).bind fun b' => ih (i + 1) b'

theorem asks_historyPart (pressed : Option Button) (b : Build) :
    Asks log [] (historyPart services s pressed b) := by
  unfold historyPart
  split
  · exact asks_pure _
  · exact asks_versions h pressed 0 _ _

theorem asks_deckPart (a : Option Action) (ha : ∀ prompt, a ≠ some (.generate prompt))
    (d : Deck Float) (b : Build) (hd : b.session.current = some d) :
    Asks log (b.session.requests s a) (deckPart services s a d b) := by
  unfold deckPart
  split
  · next instruction =>
    exact (asks_edit h d instruction (b.add _) hd).bind fun b' => asks_historyPart h _ b'
  · next hedit =>
    rw [requests_of_ne ha fun instruction he => absurd he (hedit instruction)]
    exact asks_historyPart h _ _

/-- Below a request for a new deck no button is pressed. -/
theorem asks_deckPart_generate (prompt : String) (d : Deck Float) (b : Build) :
    Asks log [] (deckPart services s (some (.generate prompt)) d b) :=
  asks_historyPart h _ _

theorem asks_mainPart (a : Option Action) (x : Session) :
    Asks log (x.requests s a) (mainPart services s a x) := by
  let b : Build := { session := x, shown := [.button .generate false] }
  by_cases ha : ∃ prompt, a = some (.generate prompt)
  · obtain ⟨prompt, rfl⟩ := ha
    refine (asks_generate h prompt b).bind fun b' => ?_
    dsimp only
    split
    · exact asks_pure _
    · split
      · exact asks_deckPart_generate h prompt _ _
      · exact asks_pure _
  · have hother (prompt : String) : a ≠ some (.generate prompt) := fun he => ha ⟨prompt, he⟩
    unfold mainPart
    split
    · next prompt => exact absurd rfl (hother prompt)
    · change Asks log _ (match x.current with
        | some d => deckPart services s a d b
        | none => pure b)
      split
      · next d hd => exact asks_deckPart h a hother d b hd
      · next hd =>
        rw [requests_of_ne hother fun _ _ => hd]
        exact asks_pure _

theorem asks_build (a : Option Action) (x : Session) :
    Asks log (x.requests s a) (build services s a x) := by
  unfold build
  split
  · next hclear =>
    rw [eq_of_beq hclear]
    exact asks_pure _
  · exact (asks_mainPart h a x).bind fun b => asks_pure _

/-- The second time that a page is built, if there is one, asks nothing. -/
theorem asks_settle (a : Option Action) (x : Session) :
    Asks log (x.requests s a) (settle services s a x) := by
  refine (asks_build h a x).bind fun b => ?_
  split
  · exact asks_build h none b.session
  · exact asks_pure _

/-- An action asks what it asks of the session, if its button is there. -/
theorem asks_act (p : State) (a : Action) :
    Asks log (if a.button?.all p.offers then p.session.requests (p.controls.apply s) (some a) else [])
      (act services s p a) := by
  cases hb : a.button? with
  | some b =>
    rw [act_of_button hb, Option.all_some]
    split
    · exact (asks_settle h (some a) p.session).bind fun _ => asks_pure _
    · exact asks_pure _
  | none =>
    cases a with
    | controls schema canvas strict =>
      exact (asks_settle h none p.session).bind fun _ => asks_pure _
    | _ => cases hb

end Page

end DeckPress
