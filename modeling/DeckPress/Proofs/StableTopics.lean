import DeckPress.Proofs.Replies
import DeckPress.Proofs.Transcripts
import DeckPress.Proofs.Words

/-!
# Topics that stay

The topic of a new deck is the beginning of its message, in tidy form. A message that says anything
has a word, so the topic is never empty, and every edit hands it on. It stands in for the empty
queries of the deck, so that no resolver is ever asked for nothing.
-/
namespace DeckPress

open Attempt Image Text

/-! ## The topic of a message -/

/-- What the topic of a deck on a message is to be. -/
structure IsTopicOf (message topic : String) : Prop where
  ne_empty : topic ≠ ""
  tidy : IsTidy topic.toList
  words_eq : words topic.toList = (words message.toList).take 5
  fixed : Topic.ofMessage topic = topic

namespace Topic

variable {message : String}

theorem isWord_of_mem_take {w : List Char} (h : w ∈ (words message.toList).take wordLimit) :
    IsWord w :=
  isWord_of_mem_words (List.mem_of_mem_take h)

theorem words_ofMessage (message : String) :
    words (ofMessage message).toList = (words message.toList).take wordLimit := by
  rw [ofMessage, String.toList_ofList, words_unwords fun _ => isWord_of_mem_take]

theorem isTidy_ofMessage (message : String) : IsTidy (ofMessage message).toList := by
  rw [ofMessage, String.toList_ofList]
  exact isTidy_unwords fun _ => isWord_of_mem_take

theorem ofMessage_ofMessage (message : String) :
    ofMessage (ofMessage message) = ofMessage message := by
  rw [ofMessage, words_ofMessage, List.take_take, Nat.min_self, ← ofMessage]

/-- Only of a blank message is nothing left: what has no words is blank. -/
theorem ofMessage_eq_empty_iff :
    ofMessage message = "" ↔ Conversation.isBlank message = true := by
  have hwords : ofMessage message = "" ↔ words message.toList = [] := by
    rw [ofMessage, String.ofList_eq_empty_iff, unwords_eq_nil_iff fun _ => isWord_of_mem_take]
    simp [wordLimit]
  rw [hwords, words_eq_nil_iff, Conversation.isBlank, List.all_eq_true]

theorem isTopicOf_ofMessage (h : Conversation.isBlank message = false) :
    IsTopicOf message (ofMessage message) where
  ne_empty := by rw [Ne, ofMessage_eq_empty_iff, h]; exact Bool.false_ne_true
  tidy := isTidy_ofMessage message
  words_eq := words_ofMessage message
  fixed := ofMessage_ofMessage message

end Topic

/-! ## Edits -/

namespace Conversation

variable {σ : Type} {service : Service σ} {model schema : String} {turns : List Turn}
  {message instruction : String} {t t' : σ} {d d' : Deck Float}

theorem topic_generate (h : (generate service model schema turns message).outcome t = (.ok d, t')) :
    isBlank message = false ∧ d.topic = some (Topic.ofMessage message) := by
  rw [generate] at h
  cases hblank : isBlank message with
  | true =>
    rw [hblank] at h
    cases h
  | false =>
    rw [hblank, if_neg Bool.false_ne_true] at h
    obtain ⟨ss, _, -, hd⟩ := outcome_bind_eq_ok.1 h
    cases hd
    exact ⟨rfl, rfl⟩

theorem topic_edit
    (h : (edit service model schema turns d instruction).outcome t = (.ok d', t')) :
    d'.topic = d.topic := by
  obtain ⟨ss, _, -, hd⟩ := outcome_bind_eq_ok.1 h
  cases hd
  rfl

/-- The deck comes of another one by edits that succeed, each with a service, a kind of slides and
turns of its own. -/
inductive Edited : Deck Float → Deck Float → Prop
  | refl (d : Deck Float) : Edited d d
  | step {d d' d'' : Deck Float} (h : Edited d d') {σ : Type} {service : Service σ}
      {model schema instruction : String} {turns : List Turn} {t t' : σ}
      (last : (edit service model schema turns d' instruction).outcome t = (.ok d'', t')) :
      Edited d d''

theorem Edited.topic_eq (h : Edited d d') : d'.topic = d.topic := by
  induction h with
  | refl => rfl
  | step _ last ih => rw [topic_edit last, ih]

end Conversation

/-! ## What is asked for -/

section Wishes

variable {α σ τ : Type} {topic : String} {w : Wish}

/-- A topic that is not empty stands in for every empty query. -/
theorem Slide.standIn_of_mem_wishes (hne : topic ≠ "") {index : Nat} {s : Slide α}
    (h : w ∈ s.wishes (some topic) index) : w.standIn = topic := by
  cases s with
  | generic objects =>
    simp only [wishes, objectWishes, List.mem_filterMap, Option.map_eq_some_iff] at h
    obtain ⟨o, -, r, -, rfl⟩ := h
    exact if_neg hne
  | templated s =>
    obtain ⟨q, -, rfl⟩ := List.mem_map.1 h
    exact if_neg hne

theorem Deck.query_of_mem_wishes {d : Deck α} (ht : d.topic = some topic) (hne : topic ≠ "")
    (h : w ∈ d.wishes) : w.query ≠ "" ∧ (w.own = "" → w.query = topic) := by
  obtain ⟨p, -, hw⟩ := List.mem_flatMap.1 h
  rw [ht] at hw
  rw [Wish.query, Slide.standIn_of_mem_wishes hne hw]
  by_cases hown : w.own = ""
  · simp [hown, hne]
  · simp [hown]

namespace Compiler

theorem keeps_attend (c : Compiler α σ) (r : Resolver τ) {P : Request → Prop} (hw : P w.request) :
    Keeps (fun u => ∀ q ∈ u.2.asked, P q) ((c.withResolver r.recorded).attend w) := by
  refine keeps_effect_iff.2 fun u hu => ?_
  by_cases hdirect : w.IsDirect
  · rwa [lookUp_of_direct _ hdirect]
  · rw [outcome_lookUp_recorded c hdirect rfl]
    intro q hq
    simp only [Transcript.asked, List.map_append, List.mem_append] at hq
    rcases hq with hq | hq
    · exact hu q hq
    · exact List.mem_singleton.1 hq ▸ hw

/-- However a compilation ends, it asks for what its deck wishes for and for nothing else. -/
theorem mem_wishes_of_asked [Scalar α] (c : Compiler α σ) (r : Resolver τ) (d : Deck α) (t : τ)
    {q : Request} (h : q ∈ (((c.withResolver r.recorded).compile d).outcome (t, [])).2.2.asked) :
    ∃ w ∈ d.wishes, q = w.request := by
  have hkeeps : Keeps (fun u => ∀ q ∈ u.2.asked, ∃ w ∈ d.wishes, q = w.request)
      ((c.withResolver r.recorded).compile d) := by
    by_cases hd : d.slides = []
    · rw [compile, hd]
      exact keeps_ofExcept _
    · rw [← keeps_effect_iff, effect_compile_eq_visits hd]
      refine keeps_forM fun p hp => (keeps_forM fun w hw => ?_).bind fun _ => keeps_ofExcept _
      exact keeps_attend c r ⟨w, List.mem_flatMap.2 ⟨p, hp, hw⟩, rfl⟩
  exact hkeeps (t, []) (List.forall_mem_nil _) q h

end Compiler

end Wishes

namespace Conversation

variable {σ : Type} {service : Service σ} {model schema : String} {turns : List Turn}
  {message : String} {t t' : σ} {d : Deck Float}

/-- A new deck is on the first five words of its message, and stays so however often it is edited.
Whatever compiler and resolver it meets then, no image is asked for without a query, and one with
an empty field is asked for by the topic. -/
theorem topic_stays_through_edits
    (h : (generate service model schema turns message).outcome t = (.ok d, t')) :
    ∃ topic, d.topic = some topic ∧ IsTopicOf message topic ∧
      ∀ d', Edited d d' → d'.topic = some topic ∧
        ∀ (τ ρ : Type) (c : Compiler Float τ) (r : Resolver ρ) (u : ρ) (q : Image.Request),
          q ∈ (((c.withResolver r.recorded).compile d').outcome (u, [])).2.2.asked →
          q.query ≠ "" ∧ ∃ w ∈ d'.wishes, q = w.request ∧ (w.own = "" → q.query = topic) := by
  obtain ⟨hmessage, htopic⟩ := topic_generate h
  have hof := Topic.isTopicOf_ofMessage hmessage
  refine ⟨_, htopic, hof, fun d' hd' => ?_⟩
  have htopic' := hd'.topic_eq.trans htopic
  refine ⟨htopic', fun τ ρ c r u q hq => ?_⟩
  obtain ⟨w, hw, rfl⟩ := c.mem_wishes_of_asked r d' u hq
  obtain ⟨hne, hempty⟩ := Deck.query_of_mem_wishes htopic' hof.ne_empty hw
  exact ⟨hne, w, hw, rfl, hempty⟩

def Service.saying (content : String) : Service Unit := fun _ => pure (.ok ⟨some content, ""⟩)

def lakesReply : String :=
  "\x7b\"slides\": [\x7b\"title\": \"Lakes\", \"content\": \"All\", " ++
    "\"imageQuery\": \"a lake\"\x7d]\x7d"

def lakesDeck : Deck Float :=
  ⟨[.templated ⟨"Lakes", "All", none, some "a lake"⟩], some "Show me the deep blue"⟩

def mapsReply : String :=
  "\x7b\"slides\": [\x7b\"title\": \"Maps\", \"content\": \"Two\", " ++
    "\"imageQuery\": \"\"\x7d]\x7d"

/-- The deck with its slide replaced by one whose image has an empty field. -/
def mapsDeck : Deck Float :=
  { lakesDeck with slides := [.templated ⟨"Maps", "Two", none, some ""⟩] }

theorem topic_stays_through_edits_lakes :
    (generate (.saying lakesReply) "gpt" "templated" []
        " Show me\tthe  deep blue lakes ").outcome () = (.ok lakesDeck, ()) ∧
      Edited lakesDeck mapsDeck ∧
      let c : Compiler Float Unit := { canvas := .standard }
      let run := ((c.withResolver Compiler.findsOnce.recorded).compile mapsDeck).outcome (false, [])
      run.2.2.asked = [⟨"Show me the deep blue", 0, "Maps Two"⟩] ∧
        ∀ q ∈ run.2.2.asked, q.query ≠ "" := by
  have hnew : (generate (.saying lakesReply) "gpt" "templated" []
      " Show me\tthe  deep blue lakes ").outcome () = (.ok lakesDeck, ()) := by
    decide +kernel
  have hedit : (edit (.saying mapsReply) "gpt" "templated" [] lakesDeck "Maps, please").outcome () =
      (.ok mapsDeck, ()) := by
    decide +kernel
  have hedited : Edited lakesDeck mapsDeck := .step (.refl _) hedit
  obtain ⟨topic, -, -, hlater⟩ := topic_stays_through_edits hnew
  refine ⟨hnew, hedited, ?_⟩
  intro c run
  refine ⟨by decide +kernel, fun q hq => ?_⟩
  exact ((hlater _ hedited).2 Unit Bool c Compiler.findsOnce false q hq).1

end Conversation

end DeckPress
