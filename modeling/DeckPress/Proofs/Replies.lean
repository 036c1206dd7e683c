import DeckPress.Conversation
import DeckPress.Proofs.Attempt

/-!
# Replies of a model

To ask a model for slides is to send one request and to read the reply: its text has to be JSON
text of slides of the kind that was asked for.
-/
namespace DeckPress.Conversation

variable {σ : Type} {service : Service σ} {model : String} {m : SlideModel} {turns : List Turn}
  {message : String}

theorem outcome_ask (t : σ) :
    (ask service model m.word turns message).outcome t =
      (ofReply m (service (request model m turns message) t).1,
        (service (request model m turns message) t).2) := by
  have hm : model? m.word = .ok m := by cases m <;> rfl
  rw [ask, hm]
  simp only [Attempt.outcome_bind, Attempt.outcome_ofExcept, Attempt.outcome_ofState]

/-- A new deck is what the reply to its one request is read as, on the topic of the message. -/
theorem outcome_generate (hmessage : isBlank message = false) (t : σ) :
    (generate service model m.word turns message).outcome t =
      ((ofReply m (service (request model m turns message) t).1).map fun ss =>
        ⟨ss, some (Topic.ofMessage message)⟩, (service (request model m turns message) t).2) := by
  simp only [generate, hmessage, Bool.false_eq_true, if_false, Attempt.outcome_bind, outcome_ask]
  cases ofReply m (service (request model m turns message) t).1 <;> rfl

theorem slides_eq_valid_iff {content : String} {ss : List (Slide Float)} :
    slides m content = .valid ss ↔
      ∃ v, Json.Reply.read content = .ok v ∧ Deck.checkPayload .text m v = .valid ss := by
  unfold slides
  cases Json.Reply.read content <;> simp [Checked.fail]

theorem read_empty_ne_ok (v : Json) : Json.Reply.read "" ≠ .ok v := by
  have hnothing : (Json.Reply.read "").isOk = false := by decide +kernel
  intro hv
  rw [hv] at hnothing
  cases hnothing

/-- A reply is taken for the slides that its text describes; what is empty describes nothing. -/
theorem ofReply_eq_ok_iff {reply : Reply} {ss : List (Slide Float)} :
    ofReply m reply = .ok ss ↔
      ∃ r v, reply = .ok r ∧ Json.Reply.read (r.content.getD "") = .ok v ∧
        Deck.checkPayload .text m v = .valid ss := by
  cases reply with
  | error e => simp [ofReply]
  | ok r =>
    simp only [ofReply, Except.ok.injEq, exists_and_left, exists_eq_left', ← slides_eq_valid_iff]
    split_ifs with hempty
    · rw [String.isEmpty_iff.1 hempty, slides_eq_valid_iff]
      refine iff_of_false nofun ?_
      rintro ⟨v, hv, -⟩
      exact read_empty_ne_ok v hv
    · cases slides m (r.content.getD "") <;> simp

end DeckPress.Conversation
