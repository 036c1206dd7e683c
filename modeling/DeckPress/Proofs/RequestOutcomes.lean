import DeckPress.Failure
import DeckPress.Proofs.Replies

/-!
# What asking for slides comes to

A message that says nothing and a kind of slides that is not known are refused before anything is
sent. Whatever else is asked for is sent once, and then there are three cases: the answer describes
slides; there is none, for some mishap; or there is one that describes no slides. Editing differs
from asking for a new deck only in that no instruction is refused.
-/
namespace DeckPress.Conversation

variable {σ : Type}

/-- What does the work of a service: it sends a completion, or there is a mishap. -/
abbrev Client (σ : Type) := Request → StateM σ (Except Mishap Completion)

def Client.logged (client : Client σ) : Service (σ × List Request) := fun r u =>
  let (answer, t) := client r u.1
  (answer.map Completion.response, t, u.2 ++ [r])

/-- The text is JSON text, and the record of slides of the kind accepts it. -/
def Describes (m : SlideModel) (content : String) (ss : List (Slide Float)) : Prop :=
  ∃ v, Json.Reply.read content = .ok v ∧ Deck.checkPayload .text m v = .valid ss

theorem logged_apply (client : Client σ) (r : Request) (t : σ) (log : List Request) :
    client.logged r (t, log) =
      ((client r t).1.map Completion.response, (client r t).2, log ++ [r]) := rfl

namespace Completion

/-- What the first choice says describes the slides. -/
inductive Gives (m : SlideModel) (ss : List (Slide Float)) : Completion → Prop
  | described {content : String} {more : List (Option String)} {text : String}
      (h : Describes m content ss) : Gives m ss ⟨some (some content :: more), text⟩

/-- All ways in which there are no slides in a completion. -/
inductive Lacks (m : SlideModel) : Completion → Prop
  | unlisted (text : String) : Lacks m ⟨none, text⟩
  | unanswered (text : String) : Lacks m ⟨some [], text⟩
  | null (more : List (Option String)) (text : String) : Lacks m ⟨some (none :: more), text⟩
  | empty (more : List (Option String)) (text : String) : Lacks m ⟨some (some "" :: more), text⟩
  | undescribed {content : String} (h : ∀ ss, ¬Describes m content ss)
      (more : List (Option String)) (text : String) : Lacks m ⟨some (some content :: more), text⟩

variable {m : SlideModel} {c : Completion}

theorem not_describes_empty (m : SlideModel) (ss : List (Slide Float)) : ¬Describes m "" ss := by
  rintro ⟨v, hv, -⟩
  exact read_empty_ne_ok v hv

theorem gives_iff_ofReply {ss : List (Slide Float)} :
    c.Gives m ss ↔ ofReply m (.ok c.response) = .ok ss := by
  rw [ofReply_eq_ok_iff]
  constructor
  · rintro ⟨v, hv⟩
    exact ⟨_, v, rfl, hv⟩
  · rintro ⟨_, v, ⟨⟩, hv⟩
    obtain ⟨_ | _ | ⟨_ | content, more⟩, text⟩ := c
    · exact absurd ⟨v, hv⟩ (not_describes_empty m ss)
    · exact absurd ⟨v, hv⟩ (not_describes_empty m ss)
    · exact absurd ⟨v, hv⟩ (not_describes_empty m ss)
    · exact .described ⟨v, hv⟩

theorem lacks_iff : c.Lacks m ↔ ∀ ss, ¬c.Gives m ss := by
  constructor
  · rintro (_ | _ | _ | _ | h) ss hgives
    · cases hgives
    · cases hgives
    · cases hgives
    · obtain ⟨h⟩ := hgives
      exact not_describes_empty m ss h
    · obtain ⟨hss⟩ := hgives
      exact h ss hss
  · intro h
    obtain ⟨_ | _ | ⟨_ | content, more⟩, text⟩ := c
    · exact .unlisted text
    · exact .unanswered text
    · exact .null more text
    · exact .undescribed (fun ss hss => h ss (.described hss)) more text

end Completion

/-- The refusal of a request that is not sent. -/
def Fault.IsRefusal (f : Fault) : Prop := ∃ message, f.refusal? = some message

/-- The report of a mishap, with the status of the answer if there is one. -/
def Fault.IsMishap (status : Option Int) (f : Fault) : Prop :=
  ∃ reason, f.report? = some (.service "openai" status reason)

/-- The report of slides that are not there, or not as they should be. -/
def Fault.IsMismatch (f : Fault) : Prop :=
  ∃ message payload, f.report? = some (.schema message payload none)

/-- What the answer to a request comes to. -/
structure ComesTo (m : SlideModel) (topic : Option String) (answer : Except Mishap Completion)
    (result : Except Fault (Deck Float)) : Prop where
  deck : ∀ d, result = .ok d ↔ ∃ c ss, answer = .ok c ∧ c.Gives m ss ∧ d = ⟨ss, topic⟩
  status : ∀ code, (∃ f, result = .error f ∧ f.IsMishap (some code)) ↔
    ∃ message, answer = .error (.status code message)
  noStatus : (∃ f, result = .error f ∧ f.IsMishap none) ↔
    answer = .error .unreachable ∨ answer = .error .timeout ∨
      ∃ message, answer = .error (.other message)
  mismatch : (∃ f, result = .error f ∧ f.IsMismatch) ↔ ∃ c, answer = .ok c ∧ c.Lacks m
  nothingElse : ∀ f, result = .error f → (∃ status, f.IsMishap status) ∨ f.IsMismatch

/-- What asking comes to: the result, the state of the client, and what was sent. -/
structure Ends (client : Client σ) (Refused : Prop) (schema : String) (ask : SlideModel → Request)
    (topic : Option String) (t : σ) (run : Except Fault (Deck Float) × σ × List Request) :
    Prop where
  refused : (∃ f, run.1 = .error f ∧ f.IsRefusal) ↔ Refused ∨ ∀ m : SlideModel, schema ≠ m.word
  nothingSent : (Refused ∨ ∀ m : SlideModel, schema ≠ m.word) → run.2 = (t, [])
  sentOnce : ¬Refused → ∀ m : SlideModel, schema = m.word →
    run.2 = ((client (ask m) t).2, [ask m]) ∧ ComesTo m topic (client (ask m) t).1 run.1

theorem report?_service (e : Mishap) :
    (Fault.service e).report? = some (.service "openai" e.status? e.message) := rfl

theorem isMishap_service_iff {e : Mishap} {status : Option Int} :
    (Fault.service e).IsMishap status ↔ e.status? = status := by
  simp [Fault.IsMishap, report?_service]

theorem status?_eq_some_iff {e : Mishap} {code : Int} :
    e.status? = some code ↔ ∃ message, e = .status code message := by
  cases e <;> simp [Mishap.status?]

theorem status?_eq_none_iff {e : Mishap} :
    e.status? = none ↔ e = .unreachable ∨ e = .timeout ∨ ∃ message, e = .other message := by
  cases e <;> simp [Mishap.status?]

theorem isMismatch_of_ofReply {m : SlideModel} {r : Response} {f : Fault}
    (h : ofReply m (.ok r) = .error f) : f.IsMismatch := by
  unfold ofReply at h
  dsimp only at h
  split at h
  · cases h
    exact ⟨_, _, rfl⟩
  · split at h
    · cases h
    · cases h
      exact ⟨_, _, rfl⟩

theorem Fault.IsMismatch.not_isMishap {f : Fault} (h : f.IsMismatch) (status : Option Int) :
    ¬f.IsMishap status := by
  rintro ⟨reason, hreason⟩
  obtain ⟨message, payload, hmessage⟩ := h
  cases hmessage.symm.trans hreason

section Cases

variable (m : SlideModel) (topic : Option String)

theorem comesTo_mishap (e : Mishap) : ComesTo m topic (.error e) (.error (.service e)) where
  deck d := iff_of_false nofun nofun
  status code := by simp [isMishap_service_iff, status?_eq_some_iff]
  noStatus := by simp [isMishap_service_iff, status?_eq_none_iff]
  mismatch := by
    refine iff_of_false ?_ nofun
    rintro ⟨_, ⟨⟩, hmismatch⟩
    exact hmismatch.not_isMishap _ (isMishap_service_iff.2 rfl)
  nothingElse := by
    rintro _ ⟨⟩
    exact .inl ⟨_, isMishap_service_iff.2 rfl⟩

variable {m} {c : Completion}

theorem comesTo_deck {ss : List (Slide Float)} (h : c.Gives m ss) :
    ComesTo m topic (.ok c) (.ok ⟨ss, topic⟩) where
  deck d := by
    constructor
    · rintro ⟨⟩
      exact ⟨c, ss, rfl, h, rfl⟩
    · rintro ⟨_, ss', ⟨⟩, h', rfl⟩
      rw [Completion.gives_iff_ofReply] at h h'
      rw [Except.ok.inj (h.symm.trans h')]
  status code := iff_of_false nofun nofun
  noStatus := iff_of_false nofun nofun
  mismatch := by
    refine iff_of_false nofun ?_
    rintro ⟨_, ⟨⟩, hlacks⟩
    exact Completion.lacks_iff.1 hlacks ss h
  nothingElse := nofun

theorem comesTo_mismatch (h : c.Lacks m) {f : Fault} (hf : f.IsMismatch) :
    ComesTo m topic (.ok c) (.error f) where
  deck d := by
    refine iff_of_false nofun ?_
    rintro ⟨_, ss, ⟨⟩, hgives, -⟩
    exact Completion.lacks_iff.1 h ss hgives
  status code := by
    refine iff_of_false ?_ nofun
    rintro ⟨_, ⟨⟩, hmishap⟩
    exact hf.not_isMishap _ hmishap
  noStatus := by
    refine iff_of_false ?_ nofun
    rintro ⟨_, ⟨⟩, hmishap⟩
    exact hf.not_isMishap _ hmishap
  mismatch := iff_of_true ⟨f, rfl, hf⟩ ⟨c, rfl, h⟩
  nothingElse := by
    rintro _ ⟨⟩
    exact .inr hf

end Cases

theorem comesTo_ofReply (m : SlideModel) (topic : Option String)
    (answer : Except Mishap Completion) :
    ComesTo m topic answer
      ((ofReply m (answer.map Completion.response)).map fun ss => ⟨ss, topic⟩) := by
  cases answer with
  | error e => exact comesTo_mishap m topic e
  | ok c =>
    change ComesTo m topic (.ok c) ((ofReply m (.ok c.response)).map fun ss => ⟨ss, topic⟩)
    cases hreply : ofReply m (.ok c.response) with
    | ok ss => exact comesTo_deck topic (Completion.gives_iff_ofReply.2 hreply)
    | error f =>
      refine comesTo_mismatch topic (Completion.lacks_iff.2 fun ss hgives => ?_)
        (isMismatch_of_ofReply hreply)
      cases (Completion.gives_iff_ofReply.1 hgives).symm.trans hreply

/-- What is refused is not reported. -/
theorem Fault.IsRefusal.report?_eq_none {f : Fault} (h : f.IsRefusal) : f.report? = none := by
  obtain ⟨message, hmessage⟩ := h
  cases f with
  | blankMessage => rfl
  | unknownModel name => rfl
  | _ => cases hmessage

theorem ComesTo.not_isRefusal {m : SlideModel} {topic : Option String}
    {answer : Except Mishap Completion} {f : Fault} (h : ComesTo m topic answer (.error f)) :
    ¬f.IsRefusal := by
  intro hrefusal
  have hnone := hrefusal.report?_eq_none
  obtain ⟨status, reason, hreport⟩ | ⟨message, payload, hreport⟩ := h.nothingElse f rfl
  · cases hnone.symm.trans hreport
  · cases hnone.symm.trans hreport

theorem model?_of_unknown {schema : String} (h : ∀ m : SlideModel, schema ≠ m.word) :
    model? schema = .error (.unknownModel schema) := by
  have htemplated : (schema == "templated") = false := beq_eq_false_iff_ne.2 (h .templated)
  have hgeneric : (schema == "generic") = false := beq_eq_false_iff_ne.2 (h .generic)
  simp only [model?, SlideModel.words, List.lookup_cons, List.lookup_nil, htemplated, hgeneric]

theorem word_injective : SlideModel.word.Injective := by
  intro m m' h
  cases m <;> cases m' <;> simp_all [SlideModel.word]

section Asking

variable (client : Client σ) (model schema : String) (turns : List Turn) (message : String)
  (topic : Option String) (t : σ)

def askDeck (service : Service σ) (model schema : String) (turns : List Turn) (message : String)
    (topic : Option String) : Attempt Fault σ (Deck Float) := do
  let ss ← ask service model schema turns message
  return ⟨ss, topic⟩

theorem outcome_askDeck (m : SlideModel) :
    (askDeck client.logged model m.word turns message topic).outcome (t, []) =
      ((ofReply m ((client (request model m turns message) t).1.map Completion.response)).map
        fun ss => ⟨ss, topic⟩,
        (client (request model m turns message) t).2, [request model m turns message]) := by
  rw [askDeck, Attempt.outcome_bind, outcome_ask, logged_apply]
  cases ofReply m ((client (request model m turns message) t).1.map Completion.response) <;> rfl

theorem ends_askDeck :
    Ends client False schema (fun m => request model m turns message) topic t
      ((askDeck client.logged model schema turns message topic).outcome (t, [])) := by
  by_cases hknown : ∃ m : SlideModel, schema = m.word
  · obtain ⟨m, rfl⟩ := hknown
    have hunknown : ¬(False ∨ ∀ m' : SlideModel, m.word ≠ m'.word) := by
      rintro (⟨⟨⟩⟩ | h)
      exact h m rfl
    have hcomes := comesTo_ofReply m topic (client (request model m turns message) t).1
    rw [outcome_askDeck]
    refine ⟨iff_of_false ?_ hunknown, fun h => absurd h hunknown, fun _ m' hm => ?_⟩
    · rintro ⟨f, hf, hrefusal⟩
      rw [show (ofReply m _).map _ = _ from hf] at hcomes
      exact hcomes.not_isRefusal hrefusal
    · obtain rfl : m = m' := word_injective hm
      exact ⟨rfl, hcomes⟩
  · rw [not_exists] at hknown
    rw [askDeck, ask, model?_of_unknown hknown]
    exact ⟨iff_of_true ⟨_, rfl, _, rfl⟩ (.inr hknown), fun _ => rfl,
      fun _ m hm => absurd hm (hknown m)⟩

end Asking

/-- A request for a new deck is refused if the message says nothing, an edit is not; other than that
there are four outcomes to both. Nothing is sent for a message that is refused or a kind of slides
that is not known, and else one request, once. Then there is a deck if the first choice describes
one, a report with the status of the answer if the service refused, a report without one if it could
not be asked, and a report of a mismatch if there is no choice, or if it says nothing or nothing
that the record of slides accepts. -/
theorem requests_have_four_outcomes (client : Client σ) (model schema : String)
    (turns : List Turn) (t : σ) :
    (∀ message, Ends client (isBlank message = true) schema
      (fun m => request model m turns message) (some (Topic.ofMessage message)) t
      ((generate client.logged model schema turns message).outcome (t, []))) ∧
    ∀ (d : Deck Float) (instruction : String), Ends client False schema
      (fun m => request model m (turns ++ [.said .assistant d.print]) (editMessage instruction))
      d.topic t ((edit client.logged model schema turns d instruction).outcome (t, [])) := by
  refine ⟨fun message => ?_, fun d instruction => ends_askDeck client model schema _ _ d.topic t⟩
  cases hblank : isBlank message with
  | true =>
    rw [generate, hblank]
    exact ⟨iff_of_true ⟨_, rfl, _, rfl⟩ (.inl rfl), fun _ => rfl, fun h => absurd rfl h⟩
  | false =>
    have hask : generate client.logged model schema turns message =
        askDeck client.logged model schema turns message (some (Topic.ofMessage message)) := by
      rw [generate, hblank]
      rfl
    rw [hask, Bool.false_eq_true]
    exact ends_askDeck client model schema turns message _ t

end DeckPress.Conversation
