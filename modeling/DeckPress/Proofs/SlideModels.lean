import DeckPress.Proofs.AcceptedDecks
import DeckPress.Proofs.Replies

/-!
# The two ways into a deck

A deck is read from data with slides of either kind, or from a reply with slides of the kind that
was asked for. Both accept the same slides: no value is a slide of both kinds, and what is accepted
does not depend on where the data comes from, but only how a refusal is worded.
-/
namespace DeckPress

open Validation

namespace Checked

variable {α β : Type}

/-- What is accepted, if anything; issues are not told apart. -/
def accepted? : Checked α → Option α
  | valid a => some a
  | invalid _ => none

theorem accepted?_eq_some {x : Checked α} {a : α} : x.accepted? = some a ↔ x = .valid a := by
  cases x <;> simp [accepted?]

theorem accepted?_map (f : α → β) (x : Checked α) : (x.map f).accepted? = x.accepted?.map f := by
  cases x <;> rfl

theorem accepted?_functor_map (f : α → β) (x : Checked α) :
    (f <$> x).accepted? = x.accepted?.map f := accepted?_map f x

theorem accepted?_seq (f : Checked (α → β)) (x : Checked α) :
    (f <*> x).accepted? = f.accepted?.bind fun g => x.accepted?.map g := by
  cases f <;> cases x <;> rfl

theorem accepted?_within (s : Step) (x : Checked α) : (x.within s).accepted? = x.accepted? := by
  cases x <;> rfl

end Checked

namespace Validation

open Checked

variable {α : Type}

/-- Two checks that accept the same values as the same. -/
def AcceptAlike (check check' : Json → Checked α) : Prop :=
  ∀ v, (check v).accepted? = (check' v).accepted?

variable {check check' : Json → Checked α}

theorem AcceptAlike.eq_valid_iff (h : AcceptAlike check check') {v : Json} {a : α} :
    check v = .valid a ↔ check' v = .valid a := by
  rw [← accepted?_eq_some, ← accepted?_eq_some, h v]

theorem AcceptAlike.required (h : AcceptAlike check check') (f : Field) (es : Json.Entries) :
    (f.required es check).accepted? = (f.required es check').accepted? := by
  unfold Field.required
  split
  · rw [accepted?_within, accepted?_within, h]
  · rfl

theorem AcceptAlike.optional (h : AcceptAlike check check') (f : Field) (es : Json.Entries)
    (default : α) :
    (f.optional es default check).accepted? = (f.optional es default check').accepted? := by
  unfold Field.optional
  split
  · rw [accepted?_within, accepted?_within, h]
  · rfl

theorem AcceptAlike.eachFrom (h : AcceptAlike check check') (n : Nat) (vs : List Json) :
    (eachFrom check n vs).accepted? = (eachFrom check' n vs).accepted? := by
  induction vs generalizing n with
  | nil => rfl
  | cons v vs ih =>
    simp only [Checked.eachFrom, accepted?_seq, accepted?_functor_map, accepted?_within, h v, ih]

theorem AcceptAlike.list (h : AcceptAlike check check') (o o' : Origin) :
    AcceptAlike (list o check) (list o' check') := by
  intro v
  cases v with
  | arr vs => exact h.eachFrom 0 vs
  | _ => rfl

theorem AcceptAlike.record {check check' : Json.Entries → Checked α}
    (h : ∀ es, (check es).accepted? = (check' es).accepted?) (o o' : Origin) (name : String) :
    AcceptAlike (record o name check) (record o' name check') := by
  intro v
  cases v with
  | obj es => exact h es
  | _ => rfl

/-- An integer beyond all doubles is as a double infinite. -/
theorem exists_checkInches_eq_error {n : Int} (h : Number.ofInt? n = none) (positive : Bool) :
    ∃ f, Length.checkInches positive (Float.ofInt n) = .error f := by
  have hinf : (Float.ofInt n).isInf = true := by simpa [Number.ofInt?] using h
  have hfinite : Scalar.nonFinite? (Float.ofInt n) ≠ none := by
    simp only [Scalar.nonFinite?, hinf]
    split <;> simp
  obtain ⟨x, hx⟩ := Option.ne_none_iff_exists'.1 hfinite
  exact ⟨.notFinite x, by rw [Length.checkInches, hx]⟩

/-- So it is no length in reply text either, where it counts as a number at first. -/
theorem acceptAlike_length (o o' : Origin) (positive : Bool) :
    AcceptAlike (length o positive) (length o' positive) := by
  have hdata (o : Origin) : AcceptAlike (length o positive) (length .data positive) := by
    intro v
    cases o with
    | data => rfl
    | text =>
      cases v with
      | int n =>
        cases hn : Number.ofInt? n with
        | some x => simp only [length, hn]
        | none =>
          obtain ⟨f, hf⟩ := exists_checkInches_eq_error hn positive
          simp only [length, hn, hf]
          rfl
      | _ => rfl
  intro v
  rw [hdata o v, hdata o' v]

end Validation

section Origins

open Checked

variable (o o' : Origin)

theorem Region.accepted?_check (es : Json.Entries) :
    (Region.check o es).accepted? = (Region.check o' es).accepted? := by
  simp only [Region.check, accepted?_seq, accepted?_functor_map,
    (acceptAlike_length o o' false).optional, (acceptAlike_length o o' true).required]

theorem TextRegion.accepted?_check (es : Json.Entries) :
    (TextRegion.check o es).accepted? = (TextRegion.check o' es).accepted? := by
  simp only [TextRegion.check, accepted?_seq, accepted?_functor_map, Region.accepted?_check o o']

theorem ImageRegion.accepted?_check (es : Json.Entries) :
    (ImageRegion.check o es).accepted? = (ImageRegion.check o' es).accepted? := by
  simp only [ImageRegion.check, accepted?_seq, accepted?_functor_map, Region.accepted?_check o o']

theorem SlideObject.acceptAlike : AcceptAlike (SlideObject.check o) (SlideObject.check o') := by
  intro v
  unfold SlideObject.check
  split
  · split
    · rfl
    · rw [accepted?_within, accepted?_within, accepted?_map, accepted?_map,
        TextRegion.accepted?_check o o']
    · rw [accepted?_within, accepted?_within, accepted?_map, accepted?_map,
        ImageRegion.accepted?_check o o']
    · rfl
  · rfl

theorem Slide.accepted?_checkGeneric (es : Json.Entries) :
    (Slide.checkGeneric o es).accepted? = (Slide.checkGeneric o' es).accepted? := by
  simp only [Slide.checkGeneric, accepted?_seq, accepted?_functor_map,
    ((SlideObject.acceptAlike o o').list o o').required]

/-- Slides of a kind are the same wherever they come from. -/
theorem Slide.acceptAlike_checkModel (m : SlideModel) :
    AcceptAlike (Slide.checkModel o m) (Slide.checkModel o' m) := by
  intro v
  cases m with
  | generic =>
    rw [Slide.checkModel, Slide.checkModel, accepted?_map, accepted?_map,
      AcceptAlike.record (Slide.accepted?_checkGeneric o o') o o' _ v]
  | templated =>
    rw [Slide.checkModel, Slide.checkModel, accepted?_map, accepted?_map,
      AcceptAlike.record (fun _ => rfl) o o' _ v]

end Origins

namespace Validation

open Checked

variable {α : Type} {check : Json → Checked α}

theorem Field.find?_plain (key : String) (es : Json.Entries) :
    (Field.plain key).find? es = (es.get? key).map fun v => (key, v) := by
  unfold Field.find? Field.plain
  split <;> simp_all

theorem Field.required_plain_eq_valid_iff {key : String} {es : Json.Entries} {a : α} :
    (Field.plain key).required es check = .valid a ↔
      ∃ v, es.get? key = some v ∧ check v = .valid a := by
  simp [Field.required_eq_valid_iff, Field.find?_plain]

theorem Field.optional_plain_eq_valid_iff {key : String} {es : Json.Entries} {default a : α} :
    (Field.plain key).optional es default check = .valid a ↔
      (es.get? key = none ∧ a = default) ∨ ∃ v, es.get? key = some v ∧ check v = .valid a := by
  simp [Field.optional_eq_valid_iff, Field.find?_plain]

theorem Field.name_of_find? {f : Field} {es : Json.Entries} {name : String} {v : Json}
    (h : f.find? es = some (name, v)) : name = f.key ∨ name = f.name := by
  unfold Field.find? at h
  split at h
  · simp_all
  · obtain ⟨_, -, h⟩ := Option.map_eq_some_iff.1 h
    simp_all

theorem exists_field_of_noOthers {fs : List Field} {es : Json.Entries}
    (h : noOthers fs es = .valid ()) {e : String × Json} (he : e ∈ es) :
    ∃ f ∈ fs, e.1 = f.key ∨ e.1 = f.name := by
  have hused : e.1 ∈ Field.used fs es := by
    unfold noOthers at h
    split at h
    · next hnil => simpa using List.filter_eq_nil_iff.1 hnil e he
    · cases h
  obtain ⟨f, hf, hname⟩ := List.mem_filterMap.1 hused
  obtain ⟨⟨name, v⟩, hfind, rfl⟩ := Option.map_eq_some_iff.1 hname
  exact ⟨f, hf, Field.name_of_find? hfind⟩

end Validation

theorem Json.Entries.mem_of_get? {es : Json.Entries} {key : String} {v : Json}
    (h : es.get? key = some v) : (key, v) ∈ es := by
  induction es with
  | nil => cases h
  | cons e es ih =>
    obtain ⟨k, w⟩ := e
    rw [get?, List.lookup_cons] at h
    split at h
    · next hkey => simp_all
    · exact List.mem_cons_of_mem _ (ih h)

/-! ## Slides of either kind -/

namespace Slide

open Checked

variable {o o' : Origin} {m m' : SlideModel} {v : Json} {s s' : Slide Float}

theorem model_of_checkModel (h : checkModel o m v = .valid s) : s.model = m := by
  cases m with
  | generic =>
    obtain ⟨_, rfl, -⟩ := checkModel_generic_eq_valid h
    rfl
  | templated =>
    obtain ⟨_, rfl⟩ := checkModel_templated_eq_valid h
    rfl

/-- A generic slide has its objects, and no templated slide may have any. -/
theorem checkModel_templated_ne_valid (h : checkModel o .generic v = .valid s) :
    checkModel o' .templated v ≠ .valid s' := by
  intro h'
  obtain ⟨objects, hobjects, -⟩ := map_eq_valid.1 h
  obtain ⟨t, ht, -⟩ := map_eq_valid.1 h'
  cases v with
  | obj es =>
    replace hobjects : checkGeneric o es = .valid objects := hobjects
    replace ht : checkTemplated es = .valid t := ht
    simp only [checkGeneric, seq_eq_valid, functor_map_eq_valid] at hobjects
    simp only [checkTemplated, seq_eq_valid, functor_map_eq_valid] at ht
    obtain ⟨_, _, ⟨_, hgiven, -⟩, -⟩ := hobjects
    obtain ⟨_, _, -, hothers, -⟩ := ht
    -- The entry with the objects would have to give one of the fields of a templated slide.
    obtain ⟨w, hw, -⟩ := Field.required_plain_eq_valid_iff.1 hgiven
    obtain ⟨f, hf, hname⟩ := exists_field_of_noOthers hothers (Json.Entries.mem_of_get? hw)
    have hnone : ∀ f ∈ templatedFields, ¬("objects" = f.key ∨ "objects" = f.name) := by decide
    exact hnone f hf hname
  | _ => cases ht

/-- No value is a slide of both kinds, whatever it is taken for. -/
theorem model_unique (h : checkModel o m v = .valid s) (h' : checkModel o' m' v = .valid s') :
    m = m' := by
  cases m <;> cases m'
  · rfl
  · exact absurd h (checkModel_templated_ne_valid h')
  · exact absurd h' (checkModel_templated_ne_valid h)
  · rfl

theorem check_eq_valid_iff : check o v = .valid s ↔ ∃ m, checkModel o m v = .valid s := by
  refine ⟨check_eq_valid, ?_⟩
  rintro ⟨m, hm⟩
  unfold check
  split
  · next s' hs' =>
    obtain rfl : m = .generic := model_unique hm hs'
    rw [← hm, hs']
  · next issues s' hs hs' =>
    cases m with
    | generic => cases hs.symm.trans hm
    | templated => rw [← hm, hs']
  · next issues issues' hs hs' =>
    cases m with
    | generic => cases hs.symm.trans hm
    | templated => cases hs'.symm.trans hm

theorem checkModel_eq_valid_iff_check :
    checkModel o m v = .valid s ↔ check o' v = .valid s ∧ s.model = m := by
  rw [(acceptAlike_checkModel o o' m).eq_valid_iff, check_eq_valid_iff]
  constructor
  · intro h
    exact ⟨⟨m, h⟩, model_of_checkModel h⟩
  · rintro ⟨⟨m', h⟩, hmodel⟩
    obtain rfl : m' = m := (model_of_checkModel h).symm.trans hmodel
    exact h

/-- The slide of the first kind, in the order given, as which a value is accepted. -/
def firstOf (o : Origin) (order : List SlideModel) (v : Json) : Option (Slide Float) :=
  order.findSome? fun m => (checkModel o m v).accepted?

/-- The kinds may be tried in any order. -/
theorem firstOf_eq_accepted? {order : List SlideModel} (h : ∀ m, m ∈ order) (v : Json) :
    firstOf o order v = (check o v).accepted? := by
  cases hcheck : (check o v).accepted? with
  | none =>
    rw [firstOf, List.findSome?_eq_none_iff]
    intro m _
    refine Option.eq_none_iff_forall_ne_some.2 fun s hs => ?_
    have hv := check_eq_valid_iff.2 ⟨m, accepted?_eq_some.1 hs⟩
    rw [← accepted?_eq_some, hcheck] at hv
    cases hv
  | some s =>
    obtain ⟨m, hm⟩ := check_eq_valid_iff.1 (accepted?_eq_some.1 hcheck)
    have hsome : (firstOf o order v).isSome :=
      List.findSome?_isSome_iff.2 ⟨m, h m, by rw [accepted?_eq_some.2 hm]; rfl⟩
    obtain ⟨s', hs'⟩ := Option.isSome_iff_exists.1 hsome
    obtain ⟨m', -, hm'⟩ := List.exists_of_findSome?_eq_some hs'
    have hcheck' := check_eq_valid_iff.2 ⟨m', accepted?_eq_some.1 hm'⟩
    rw [hs', ← hcheck, accepted?_eq_some.2 hcheck']

end Slide

/-! ## Decks and replies -/

namespace Deck

open Checked

variable {o : Origin} {m : SlideModel} {es : Json.Entries} {ss : List (Slide Float)}
  {d : Deck Float}

/-- The slides that the entries give are what the check makes of them, one by one. -/
def GivesSlides (es : Json.Entries) (check : Json → Checked (Slide Float))
    (ss : List (Slide Float)) : Prop :=
  ∃ vs, es.get? "slides" = some (.arr vs) ∧ List.Forall₂ (fun v s => check v = .valid s) vs ss

theorem slides_list_eq_valid_iff {check : Json → Checked (Slide Float)} :
    (∃ v, es.get? "slides" = some v ∧ list o check v = .valid ss) ↔ GivesSlides es check ss := by
  simp only [list_eq_valid_iff, GivesSlides]
  constructor
  · rintro ⟨_, hv, vs, rfl, hvs⟩
    exact ⟨vs, hv, hvs⟩
  · rintro ⟨vs, hv, hvs⟩
    exact ⟨_, hv, vs, rfl, hvs⟩

theorem checkPayload_eq_valid_iff :
    checkPayload o m (.obj es) = .valid ss ↔ GivesSlides es (Slide.checkModel o m) ss := by
  rw [← slides_list_eq_valid_iff (o := o)]
  exact Field.required_plain_eq_valid_iff

theorem parse_entries_eq_ok_iff (hes : es.get? "topic" = none) :
    parse (.obj es) = .ok d ↔
      d.topic = none ∧ ((es.get? "slides" = none ∧ d.slides = []) ∨
        GivesSlides es (Slide.check .data) d.slides) := by
  rw [parse_eq_ok_iff]
  change Deck.mk <$> _ <*> _ = _ ↔ _
  simp only [seq_eq_valid, functor_map_eq_valid, Field.optional_plain_eq_valid_iff, hes,
    slides_list_eq_valid_iff]
  constructor
  · rintro ⟨_, topic, ⟨slides, hslides, rfl⟩, ⟨-, rfl⟩ | ⟨_, ⟨⟩, -⟩, rfl⟩
    exact ⟨rfl, hslides⟩
  · rintro ⟨htopic, hslides⟩
    exact ⟨_, none, ⟨d.slides, hslides, rfl⟩, .inl ⟨trivial, rfl⟩, by rw [← htopic]⟩

theorem givesSlides_checkModel_iff (o o' : Origin) :
    GivesSlides es (Slide.checkModel o m) ss ↔
      GivesSlides es (Slide.check o') ss ∧ ∀ s ∈ ss, s.model = m := by
  have hslide (v : Json) (s : Slide Float) :
      Slide.checkModel o m v = .valid s ↔ Slide.check o' v = .valid s ∧ s.model = m :=
    Slide.checkModel_eq_valid_iff_check
  simp only [GivesSlides, hslide]
  constructor
  · rintro ⟨vs, hvs, hss⟩
    refine ⟨⟨vs, hvs, hss.imp fun _ _ h => h.1⟩, fun s hs => ?_⟩
    obtain ⟨_, -, -, hmodel⟩ := exists_of_forall₂_right hss hs
    exact hmodel
  · rintro ⟨⟨vs, hvs, hss⟩, hmodel⟩
    have hboth := (List.forall₂_and_left ss vs).2 ⟨hmodel, hss.flip⟩
    exact ⟨vs, hvs, hboth.flip.imp fun _ _ h => h.symm⟩

/-- Both ways into a deck accept the same slides. -/
theorem checkPayload_eq_valid_iff_parse (hes : es.get? "topic" = none) :
    checkPayload o m (.obj es) = .valid ss ↔
      (∃ v, es.get? "slides" = some v) ∧ parse (.obj es) = .ok ⟨ss, none⟩ ∧
        ∀ s ∈ ss, s.model = m := by
  rw [checkPayload_eq_valid_iff, givesSlides_checkModel_iff o .data, parse_entries_eq_ok_iff hes]
  constructor
  · rintro ⟨⟨vs, hvs, hss⟩, hmodel⟩
    exact ⟨⟨_, hvs⟩, ⟨rfl, .inr ⟨vs, hvs, hss⟩⟩, hmodel⟩
  · rintro ⟨⟨v, hv⟩, ⟨-, ⟨hnone, -⟩ | hgiven⟩, hmodel⟩
    · cases hv.symm.trans hnone
    · exact ⟨hgiven, hmodel⟩

end Deck

namespace Conversation

variable {σ : Type} {service : Service σ} {model : String} {m : SlideModel} {turns : List Turn}
  {message : String}

/-- Whatever a service replies, no slide of the other kind is taken from it. -/
theorem model_of_ofReply {reply : Reply} {ss : List (Slide Float)} (h : ofReply m reply = .ok ss) :
    ∀ s ∈ ss, s.model = m := by
  obtain ⟨_, v, -, -, hv⟩ := ofReply_eq_ok_iff.1 h
  obtain ⟨es, hes⟩ := record_eq_valid hv
  obtain ⟨w, hw⟩ := Field.required_eq_valid hes
  intro s hs
  obtain ⟨_, hu⟩ := mem_of_list_eq_valid hw s hs
  exact Slide.model_of_checkModel hu

/-- The service replies to the request with text of the given value. -/
def Service.RepliesWith (service : Service σ) (q : Request) (t : σ) (v : Json) : Prop :=
  ∃ content text, Json.Reply.read content = .ok v ∧ (service q t).1 = .ok ⟨some content, text⟩

/-- A reply that is text of an object without a topic gives the slides of the deck that is read
from the object, if they are of the kind that was asked for. -/
theorem generate_eq_ok_iff {es : Json.Entries} {t : σ} {d : Deck Float}
    (hes : es.get? "topic" = none) (hmessage : isBlank message = false)
    (hreply : service.RepliesWith (request model m turns message) t (.obj es)) :
    ((generate service model m.word turns message).outcome t).1 = .ok d ↔
      (∃ v, es.get? "slides" = some v) ∧ Deck.parse (.obj es) = .ok ⟨d.slides, none⟩ ∧
        (∀ s ∈ d.slides, s.model = m) ∧ d.topic = some (Topic.ofMessage message) := by
  obtain ⟨content, text, hread, hreply⟩ := hreply
  have hslides (ss : List (Slide Float)) :
      ofReply m (.ok ⟨some content, text⟩) = .ok ss ↔
        Deck.checkPayload .text m (.obj es) = .valid ss := by
    simp [ofReply_eq_ok_iff, hread]
  simp only [outcome_generate hmessage, hreply, map_eq_ok, hslides,
    Deck.checkPayload_eq_valid_iff_parse hes]
  constructor
  · rintro ⟨ss, ⟨hgiven, hdeck, hmodel⟩, rfl⟩
    exact ⟨hgiven, hdeck, hmodel, rfl⟩
  · rintro ⟨hgiven, hdeck, hmodel, htopic⟩
    exact ⟨d.slides, ⟨hgiven, hdeck, hmodel⟩, by rw [← htopic]⟩

theorem model_of_generate {t : σ} {d : Deck Float}
    (h : ((generate service model m.word turns message).outcome t).1 = .ok d) :
    ∀ s ∈ d.slides, s.model = m := by
  cases hmessage : isBlank message with
  | true => simp [generate, hmessage, Attempt.outcome_bind] at h
  | false =>
    rw [outcome_generate hmessage] at h
    obtain ⟨ss, hss, rfl⟩ := map_eq_ok.1 h
    exact model_of_ofReply hss

def Service.constant (v : Json) : Service Unit :=
  fun _ => pure (.ok ⟨some (v.print Json.deckStyle), ""⟩)

end Conversation

/-- Slides may be read from data or asked for by their kind. For an object without a topic, what is
asked for is accepted if and only if the slides are given, a deck is read from the object, and all
its slides are of that kind; and then the slides are those of the deck, also when the object is the
reply to a request for a new deck. So no value is a slide of both kinds, the kinds may be tried in
any order, and a request for one kind never ends with a slide of the other. -/
theorem readers_agree {es : Json.Entries} (hes : es.get? "topic" = none) (m : SlideModel) :
    (∀ o, (∃ ss, Deck.checkPayload o m (.obj es) = .valid ss) ↔
        (∃ v, es.get? "slides" = some v) ∧
          ∃ d, Deck.parse (.obj es) = .ok d ∧ ∀ s ∈ d.slides, s.model = m) ∧
      (∀ o ss, Deck.checkPayload o m (.obj es) = .valid ss →
        Deck.parse (.obj es) = .ok ⟨ss, none⟩) ∧
      (∀ {σ : Type} (service : Conversation.Service σ) (model : String) (turns : List Turn)
        (message : String) (t : σ) (d : Deck Float), Conversation.isBlank message = false →
        service.RepliesWith (Conversation.request model m turns message) t (.obj es) →
        (((Conversation.generate service model m.word turns message).outcome t).1 = .ok d ↔
          (∃ v, es.get? "slides" = some v) ∧ Deck.parse (.obj es) = .ok ⟨d.slides, none⟩ ∧
            (∀ s ∈ d.slides, s.model = m) ∧ d.topic = some (Topic.ofMessage message))) ∧
      (∀ o o' v s s', Slide.checkModel o .generic v = .valid s →
        Slide.checkModel o' .templated v ≠ .valid s') ∧
      (∀ o order v, (∀ m, m ∈ order) →
        Slide.firstOf o order v = (Slide.check o v).accepted?) ∧
      ∀ {σ : Type} (service : Conversation.Service σ) (model : String) (turns : List Turn)
        (message : String) (t : σ) (d : Deck Float),
        ((Conversation.generate service model m.word turns message).outcome t).1 = .ok d →
        ∀ s ∈ d.slides, s.model = m := by
  have hparse (o : Origin) (ss : List (Slide Float)) :
      Deck.checkPayload o m (.obj es) = .valid ss ↔ _ := Deck.checkPayload_eq_valid_iff_parse hes
  refine ⟨fun o => ⟨?_, ?_⟩, fun o ss hss => ((hparse o ss).1 hss).2.1,
    fun _ _ _ _ _ _ hmessage hreply => Conversation.generate_eq_ok_iff hes hmessage hreply,
    fun _ _ _ _ _ h => Slide.checkModel_templated_ne_valid h,
    fun _ _ v horder => Slide.firstOf_eq_accepted? horder v,
    fun _ _ _ _ _ _ h => Conversation.model_of_generate h⟩
  · rintro ⟨ss, hss⟩
    obtain ⟨hgiven, hdeck, hmodel⟩ := (hparse o ss).1 hss
    exact ⟨hgiven, _, hdeck, hmodel⟩
  · rintro ⟨hgiven, d, hdeck, hmodel⟩
    have htopic : d.topic = none := ((Deck.parse_entries_eq_ok_iff hes).1 hdeck).1
    obtain ⟨slides, topic⟩ := d
    obtain rfl : topic = none := htopic
    exact ⟨slides, (hparse o slides).2 ⟨hgiven, hdeck, hmodel⟩⟩

def minutesReply : Json.Entries :=
  [("slides", .arr
    [.obj [("title", .str "Minutes"), ("content", .str "left | right")],
      .obj [("title", .str ""), ("image_query", .str "tea"), ("layout", .null)]]),
    ("count", .int 2)]

theorem readers_agree_minutesReply :
    ((Conversation.generate (Conversation.Service.constant (.obj minutesReply)) "gpt" "templated"
        [] " minutes ").outcome ()).1 =
      .ok ⟨[.templated ⟨"Minutes", "left | right", none, none⟩,
        .templated ⟨"", "", none, some "tea"⟩], some (Topic.ofMessage " minutes ")⟩ ∧
    ¬∃ ss, Deck.checkPayload .text .generic (.obj minutesReply) = .valid ss := by
  have hparse : Deck.parse (.obj minutesReply) =
      .ok ⟨[.templated ⟨"Minutes", "left | right", none, none⟩,
        .templated ⟨"", "", none, some "tea"⟩], none⟩ := by decide +kernel
  constructor
  · refine ((readers_agree (by decide) .templated).2.2.1 _ "gpt" [] _ () _ (by decide)
      ⟨_, _, ?_, rfl⟩).2 ⟨⟨_, rfl⟩, hparse, by decide, rfl⟩
    decide +kernel
  · rw [(readers_agree (by decide) .generic).1 .text]
    rintro ⟨-, d, hd, hmodel⟩
    obtain rfl := Except.ok.inj (hparse.symm.trans hd)
    exact absurd hmodel (by decide)

end DeckPress
