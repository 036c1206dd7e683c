import DeckPress.Proofs.AskedRequests
import DeckPress.Proofs.Rounds
import DeckPress.Proofs.VersionPath
import Mathlib.Data.List.DropRight

/-!
# What a session remembers of a conversation

A request for a deck that fails at any stage leaves the session as it is. So the turns of a session
are what was said with the requests that succeeded since the session was last cleared, and these
turns, in their order, are what every later request begins with.
-/
namespace DeckPress

open Attempt

namespace Pipeline

variable {σ : Type} {services : Services σ} {c : Compiler Float σ}
  {deck : Attempt Conversation.Fault σ (Deck Float)}

/-- A request fails when the deck is asked for, when it is compiled, or when it is presented. -/
inductive Fails (services : Services σ) (c : Compiler Float σ)
    (deck : Attempt Conversation.Fault σ (Deck Float)) (t : σ) : Prop
  | asking {f : Conversation.Fault} {u : σ} (hd : deck.outcome t = (.error f, u))
  | compiling {d : Deck Float} {f : Compiler.Fault} {u v : σ} (hd : deck.outcome t = (.ok d, u))
      (hc : (c.compile d).outcome u = (.error f, v))
  | presenting {d : Deck Float} {g : Drawing Float} {f : Presentation.Fault} {u v w : σ}
      (hd : deck.outcome t = (.ok d, u)) (hc : (c.compile d).outcome u = (.ok g, v))
      (hp : (Presentation.ofDrawing services.fetch g).outcome v = (.error f, w))

theorem outcome_adapt_of_error {ε ε' α : Type} {x : Attempt ε σ α} {f : ε} {t u : σ}
    (h : x.outcome t = (.error f, u)) (g : ε → ε') :
    Attempt.outcome (x.adapt g) t = (.error (g f), u) := by
  rw [outcome_adapt, h]
  rfl

theorem Fails.produce {t : σ} (h : Fails services c deck t) :
    ∃ f u, (produce services c deck).outcome t = (.error f, u) := by
  cases h with
  | @asking f u hd =>
    exact ⟨.conversation f, u, outcome_bind_eq_error.2 (.inl (outcome_adapt_of_error hd _))⟩
  | @compiling d f u v hd hc =>
    refine ⟨.compiling f, v, outcome_bind_eq_error.2 (.inr ⟨d, u, outcome_adapt_eq_ok.2 hd, ?_⟩)⟩
    exact outcome_bind_eq_error.2 (.inl (outcome_adapt_of_error hc _))
  | @presenting d g f u v w hd hc hp =>
    refine ⟨.presenting f, w, outcome_bind_eq_error.2 (.inr ⟨d, u, outcome_adapt_eq_ok.2 hd, ?_⟩)⟩
    refine outcome_bind_eq_error.2 (.inr ⟨g, v, outcome_adapt_eq_ok.2 hc, ?_⟩)
    exact outcome_bind_eq_error.2 (.inl (outcome_adapt_of_error hp _))

end Pipeline

namespace Page

variable {σ : Type} {services : Services σ} {s : Settings}

section Definitions

variable (services : Services σ) (s : Settings)

/-- How an action asks for a deck, if it does: for a new one, or for the shown one to be edited. -/
def Session.conversation? (x : Session) :
    Action → Option (Attempt Conversation.Fault σ (Deck Float))
  | .generate prompt =>
    some (Conversation.generate services.model s.model s.slideModel.word x.turns prompt)
  | .edit instruction => x.current.map fun d =>
      Conversation.edit services.model s.model s.slideModel.word x.turns d instruction
  | _ => none

/-- What the user said with an action that made a version of the deck. -/
def heard : Action × Event → Option String
  | (.generate prompt, .generated _) => some prompt
  | (.edit instruction, .edited _) => some instruction
  | _ => none

/-- What was said, since the session was last cleared, with the actions that made versions. -/
def spoken (t₀ : σ) (visits : List (Action × σ)) : List String :=
  let events := (State.first services s t₀).events services s visits
  (((visits.map Prod.fst).zip events).rtakeWhile fun v => v.2 ≠ .cleared).filterMap heard

/-- What an action says to the model: the message, and before the instruction of an edit the shown
deck. -/
def Session.says (x : Session) : Action → List Turn
  | .generate prompt => [.said .user prompt]
  | .edit instruction => (x.current.map fun d => .said .assistant d.print).toList ++
      [.said .user (Conversation.editMessage instruction)]
  | _ => []

/-- The action asks the model: its button is there, something is said, there is a key to ask with,
and an edit has a deck to work on. -/
def State.asks (p : State) : Action → Bool
  | .generate prompt =>
    p.offers .generate && !(Conversation.isBlank prompt || s.modelKey.isEmpty)
  | .edit instruction =>
    p.offers .edit && p.session.current.isSome &&
      !(Conversation.isBlank instruction || s.modelKey.isEmpty)
  | _ => false

end Definitions

theorem requested_of_fails {x : Session} {said : String} {done : Product → Session} {t : σ}
    {c : Compiler Float σ} {deck : Attempt Conversation.Fault σ (Deck Float)}
    (h : Pipeline.Fails services c deck t) :
    x.requested s said (Pipeline.produce services c deck) done t = x := by
  obtain ⟨f, u, hf⟩ := h.produce
  unfold Session.requested
  rw [hf]
  exact ite_self x

theorem next_of_fails {x : Session} {a : Action} {t : σ}
    {deck : Attempt Conversation.Fault σ (Deck Float)}
    (hdeck : x.conversation? services s a = some deck)
    (h : Pipeline.Fails services (s.compiler services.search) deck t) :
    x.next services s t a = x := by
  cases a with
  | generate prompt =>
    cases hdeck
    exact requested_of_fails h
  | edit instruction =>
    obtain ⟨d, hd, rfl⟩ := Option.map_eq_some_iff.1 hdeck
    rw [Session.next, hd]
    exact requested_of_fails h
  | _ => cases hdeck

theorem session_after_of_fails {p : State} {a : Action} {t : σ}
    {deck : Attempt Conversation.Fault σ (Deck Float)}
    (hdeck : p.session.conversation? services (p.controls.apply s) a = some deck)
    (h : Pipeline.Fails services ((p.controls.apply s).compiler services.search) deck t) :
    (p.after services s a t).session = p.session := by
  rw [session_after, next_of_fails hdeck h, ite_self]

/-- The turns after what an action came to: none if the session was cleared, else what was said in
addition, if a version was made. -/
def turnsAfter (turns : List Turn) (v : Action × Event) : List Turn :=
  if v.2 = .cleared then [] else turns ++ ((heard v).map (Turn.said .user)).toList

theorem turnsAfter_of_unheard {turns : List Turn} {v : Action × Event} (hv : v.2 ≠ .cleared)
    (h : heard v = none) : turnsAfter turns v = turns := by
  rw [turnsAfter, if_neg hv, h]
  exact List.append_nil turns

theorem turnsAfter_kept (turns : List Turn) (a : Action) : turnsAfter turns (a, .kept) = turns := by
  have hkept : heard (a, .kept) = none := by cases a <;> rfl
  exact turnsAfter_of_unheard nofun hkept

theorem turnsAfter_of_heard {turns : List Turn} {v : Action × Event} {said : String}
    (hv : v.2 ≠ .cleared) (h : heard v = some said) :
    turnsAfter turns v = turns ++ [.said .user said] := by
  rw [turnsAfter, if_neg hv, h]
  rfl

theorem turns_requested (x : Session) (a : Action) (said : String)
    (made : Attempt Failure σ Product) (done : Product → Session) (of : Deck Float → Event) (t : σ)
    (hdone : ∀ q, (done q).turns = x.turns ++ [.said .user said])
    (hof : ∀ d, of d ≠ .cleared ∧ heard (a, of d) = some said) :
    (x.requested s said made done t).turns =
      turnsAfter x.turns (a, requestEvent s said made of t) := by
  unfold requestEvent Session.requested
  split
  · exact (turnsAfter_kept x.turns a).symm
  · rcases made.outcome t with ⟨⟨f⟩ | ⟨q⟩, t'⟩
    · exact (turnsAfter_kept x.turns a).symm
    · obtain ⟨hcleared, hheard⟩ := hof q.deck
      exact (hdone q).trans (turnsAfter_of_heard hcleared hheard).symm

theorem turns_afterSwitch (x : Session) (n : Int) (t : σ) :
    (x.afterSwitch services s (some (.version n)) t).turns =
      turnsAfter x.turns (.version n, switchEvent x n) := by
  have hcleared : switchEvent x n ≠ .cleared := by
    unfold switchEvent
    split <;> exact nofun
  have hunheard : turnsAfter x.turns (.version n, switchEvent x n) = x.turns :=
    turnsAfter_of_unheard hcleared (by cases switchEvent x n <;> rfl)
  rw [hunheard]
  unfold Session.afterSwitch
  split
  · next d i _ =>
    unfold Session.switched
    split <;> rfl
  · rfl

theorem turns_next (x : Session) (a : Action) (t : σ) :
    (x.next services s t a).turns = turnsAfter x.turns (a, x.event services s t a) := by
  have hkept (a : Action) := (turnsAfter_kept x.turns a).symm
  unfold Session.next Session.event
  cases a with
  | controls schema canvas strict => exact hkept _
  | clear => rfl
  | generate prompt =>
    exact turns_requested x (.generate prompt) prompt _ _ _ t (fun q => rfl) fun d => ⟨nofun, rfl⟩
  | edit instruction =>
    cases x.current with
    | none => exact hkept _
    | some d =>
      exact turns_requested x (.edit instruction) instruction _ _ _ t (fun q => rfl)
        fun d => ⟨nofun, rfl⟩
  | version n =>
    cases x.current with
    | none => exact hkept _
    | some d => exact turns_afterSwitch x n t

theorem turns_after (p : State) (v : Action × σ) :
    (p.after services s v.1 v.2).session.turns =
      turnsAfter p.session.turns (v.1, p.event services s v) := by
  rw [session_after, State.event]
  split
  · exact turns_next p.session v.1 v.2
  · exact (turnsAfter_kept p.session.turns v.1).symm

theorem length_events (p : State) (visits : List (Action × σ)) :
    (p.events services s visits).length = visits.length := by
  induction visits generalizing p with
  | nil => rfl
  | cons v vs ih => rw [State.events, List.length_cons, List.length_cons, ih]

/-- A visit that clears the session leaves nothing spoken, any other one adds to it. -/
theorem spoken_concat (t₀ : σ) (visits : List (Action × σ)) (v : Action × σ) :
    let e := (State.reached services s t₀ visits).event services s v
    spoken services s t₀ (visits ++ [v]) =
      if e = .cleared then [] else spoken services s t₀ visits ++ (heard (v.1, e)).toList := by
  intro e
  have hlength : (visits.map Prod.fst).length =
      ((State.first services s t₀).events services s visits).length := by
    rw [length_events, List.length_map]
  unfold spoken
  dsimp only
  rw [events_concat, List.map_append, List.zip_append hlength]
  change ((_ ++ [(v.1, e)]).rtakeWhile _).filterMap heard = _
  rw [List.rtakeWhile_concat]
  by_cases he : e = .cleared
  · rw [if_pos he, if_neg (by simpa using he)]
    rfl
  · rw [if_neg he, if_pos (by simpa using he), List.filterMap_append]
    rfl

/-- The turns of a session are what was spoken. -/
theorem turns_reached (t₀ : σ) (visits : List (Action × σ)) :
    (State.reached services s t₀ visits).session.turns =
      (spoken services s t₀ visits).map (Turn.said .user) := by
  -- from the last visit, which changes turns and speech alike
  induction visits using List.reverseRecOn with
  | nil =>
    change (State.first services s t₀).session.turns = []
    rw [session_first]
  | append_singleton visits v ih =>
    rw [State.reached, follow_concat, spoken_concat]
    refine (turns_after _ v).trans ?_
    change turnsAfter (State.reached services s t₀ visits).session.turns
      (v.1, (State.reached services s t₀ visits).event services s v) = _
    rw [turnsAfter, ih, apply_ite (List.map (Turn.said .user)), List.map_append]
    congr 2
    cases heard (v.1, (State.reached services s t₀ visits).event services s v) <;> rfl

/-- What an action asks of a session is the prompt for the kind of slides, the turns so far, and
what the action says. -/
theorem requests_of_offers (p : State) (a : Action) :
    (if a.button?.all p.offers then p.session.requests (p.controls.apply s) (some a) else []) =
      if p.asks s a then
        [⟨s.model, .said .system (Conversation.prompt p.controls.schema) ::
          (p.session.turns ++ p.session.says a), p.controls.schema⟩]
      else [] := by
  cases a with
  | generate prompt =>
    change (if p.offers .generate = true then
      (if (Conversation.isBlank prompt || s.modelKey.isEmpty) = true then [] else _) else []) =
        if (p.offers .generate && !(Conversation.isBlank prompt || s.modelKey.isEmpty)) = true
        then _ else []
    cases p.offers .generate <;> cases (Conversation.isBlank prompt || s.modelKey.isEmpty) <;> rfl
  | edit instruction =>
    rw [Action.button?, Option.all_some, Session.requests, State.asks, Session.says]
    obtain hd | ⟨d, hd⟩ := Option.eq_none_or_eq_some p.session.current
    · rw [hd]
      cases p.offers .edit <;> rfl
    · rw [hd]
      cases p.offers .edit with
      | false => rfl
      | true =>
        change (if (Conversation.isBlank instruction || s.modelKey.isEmpty) = true then [] else _) =
          if (!(Conversation.isBlank instruction || s.modelKey.isEmpty)) = true then _ else []
        cases Conversation.isBlank instruction || s.modelKey.isEmpty with
        | true => rfl
        | false => simp [Conversation.request, Controls.apply]
  | _ => exact ite_self []

def scripted (reply : Conversation.Reply) : Rehearsal := ⟨⟨[reply], []⟩, ⟨[], []⟩, [], []⟩

def noPicture (_ : String) : Reply Picture.Bytes := .error (.system "")

/-- A deck, and after the session is cleared another one, one that is not made, and an edit. -/
def clearedVisits : List (Action × Rehearsal) :=
  [(.generate "lakes", scripted oneSlide), (.clear, scripted oneSlide),
    (.generate "hills", scripted oneSlide), (.generate "seas", scripted (.error .timeout)),
    (.edit "brighter", scripted oneSlide)]

def rehearsed : Services Rehearsal := Rehearsal.services noPicture

def clearedPage : State := State.reached rehearsed plainSettings (scripted oneSlide) clearedVisits

end Page

end DeckPress
