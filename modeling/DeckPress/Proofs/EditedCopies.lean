import DeckPress.Proofs.CanonicalLengths
import DeckPress.Proofs.PrintedJson
import DeckPress.Proofs.Replies

/-!
# Edited copies

A model that is asked to edit a deck is sent a copy of it. The copy is faithful: whatever deck a
check has accepted, its data is accepted again, by every check that accepts slides of its kind, and
as the same deck; and its text is read back as that data, if its numbers are. So a model that leaves
the copy as it is gives back the deck that was to be edited.
-/
namespace DeckPress

open Validation

/-! ## Data of decks -/

namespace Checked

variable {α β : Type}

@[simp] theorem functor_map_valid (f : α → β) (a : α) : f <$> valid a = valid (f a) := rfl

@[simp] theorem seq_valid (f : α → β) (a : α) : valid f <*> valid a = valid (f a) := rfl

theorem each_map_eq_valid {check : Json → Checked α} {print : α → Json} {as : List α}
    (h : ∀ a ∈ as, check (print a) = .valid a) : each check (as.map print) = .valid as := by
  rw [each, eachFrom_eq_valid, List.forall₂_map_left_iff, List.forall₂_same]
  exact h

end Checked

namespace Region

variable {o o' : Origin} {f : Field} {es : Json.Entries} {l : Length Float}

theorem position_toJson (h : f.optional es (.inches 0) (length o false) = .valid l) :
    length o' false l.toJson = .valid l := by
  obtain rfl | ⟨v, hv⟩ := Field.optional_eq_valid h
  · have hzero : Length.checkInches false (0 : Float) = .ok (.inches 0) :=
      Length.checkInches_eq_ok.2 ⟨by decide, by simp, rfl⟩
    exact ofLength_eq_valid.2 hzero
  · exact length_toJson hv

theorem size_toJson (h : f.required es (length o true) = .valid l) :
    length o' true l.toJson = .valid l := by
  obtain ⟨v, hv⟩ := Field.required_eq_valid h
  exact length_toJson hv

/-- The entries of an accepted region are accepted again, whatever other entries follow them. -/
theorem check_entries {r : Region Float} (h : Region.check o es = .valid r)
    (rest : Json.Entries) : Region.check o' (r.entries ++ rest) = .valid r := by
  simp only [Region.check, Checked.seq_eq_valid, Checked.functor_map_eq_valid] at h
  obtain ⟨_, l₄, ⟨_, l₃, ⟨_, l₂, ⟨l₁, h₁, rfl⟩, h₂, rfl⟩, h₃, rfl⟩, h₄, rfl⟩ := h
  have hx : Field.optional (.plain "x") ((Region.mk l₁ l₂ l₃ l₄).entries ++ rest) (.inches 0)
      (length o' false) = .valid l₁ := Checked.within_eq_valid.2 (position_toJson h₁)
  have hy : Field.optional (.plain "y") ((Region.mk l₁ l₂ l₃ l₄).entries ++ rest) (.inches 0)
      (length o' false) = .valid l₂ := Checked.within_eq_valid.2 (position_toJson h₂)
  have hw : Field.required (.plain "w") ((Region.mk l₁ l₂ l₃ l₄).entries ++ rest)
      (length o' true) = .valid l₃ := Checked.within_eq_valid.2 (size_toJson h₃)
  have hh : Field.required (.plain "h") ((Region.mk l₁ l₂ l₃ l₄).entries ++ rest)
      (length o' true) = .valid l₄ := Checked.within_eq_valid.2 (size_toJson h₄)
  simp only [Region.check, hx, hy, hw, hh, Checked.functor_map_valid, Checked.seq_valid]

end Region

def TextRegion.entries (r : TextRegion Float) : Json.Entries :=
  r.region.entries ++
    [("type", .str "text"), ("text", .str r.text), ("fontSize", .int r.fontSize),
      ("bold", .bool r.bold), ("align", .str r.align.word)]

theorem TextRegion.check_entries {o o' : Origin} {es : Json.Entries} {r : TextRegion Float}
    (h : TextRegion.check o es = .valid r) : TextRegion.check o' r.entries = .valid r := by
  obtain ⟨hregion, hpos⟩ := TextRegion.check_eq_valid h
  have hr : Region.check o' r.entries = .valid r.region := Region.check_entries hregion _
  have htag : tagField.optional r.entries () (choice [("text", ())]) = .valid () := rfl
  have htext : Field.optional (.plain "text") r.entries "" string = .valid r.text := rfl
  have hsize : sizeField.optional r.entries defaultFontSize positiveInteger =
      .valid r.fontSize := by
    have hn : positiveInteger (.int r.fontSize) = .valid r.fontSize := if_pos hpos
    exact Checked.within_eq_valid.2 hn
  have hbold : Field.optional (.plain "bold") r.entries false flag = .valid r.bold := rfl
  have halign : Field.optional (.plain "align") r.entries .left (choice Align.words) =
      .valid r.align := by
    have hword (a : Align) : choice Align.words (.str a.word) = .valid a := by cases a <;> rfl
    exact Checked.within_eq_valid.2 (hword r.align)
  have hothers : noOthers fields r.entries = .valid () := rfl
  simp only [TextRegion.check, hr, htag, htext, hsize, hbold, halign, hothers,
    Checked.functor_map_valid, Checked.seq_valid]

def ImageRegion.entries (r : ImageRegion Float) : Json.Entries :=
  r.region.entries ++ [("type", .str "image"), ("urlOrQuery", .str r.urlOrQuery)]

theorem ImageRegion.check_entries {o o' : Origin} {es : Json.Entries} {r : ImageRegion Float}
    (h : ImageRegion.check o es = .valid r) : ImageRegion.check o' r.entries = .valid r := by
  have hr : Region.check o' r.entries = .valid r.region :=
    Region.check_entries (ImageRegion.check_eq_valid h) _
  have htag : tagField.optional r.entries () (choice [("image", ())]) = .valid () := rfl
  have hquery : queryField.optional r.entries "" string = .valid r.urlOrQuery := rfl
  have hothers : noOthers fields r.entries = .valid () := rfl
  simp only [ImageRegion.check, hr, htag, hquery, hothers, Checked.functor_map_valid,
    Checked.seq_valid]

theorem SlideObject.check_toJson {o o' : Origin} {v : Json} {x : SlideObject Float}
    (h : SlideObject.check o v = .valid x) : SlideObject.check o' x.toJson = .valid x := by
  unfold SlideObject.check at h
  split at h
  · split at h
    · cases h
    · obtain ⟨r, hr, rfl⟩ := Checked.map_eq_valid.1 (Checked.within_eq_valid.1 h)
      have hentries : TextRegion.check o' r.entries = .valid r := TextRegion.check_entries hr
      change ((TextRegion.check o' r.entries).map text).within (.key "text") = _
      rw [hentries]
      rfl
    · obtain ⟨r, hr, rfl⟩ := Checked.map_eq_valid.1 (Checked.within_eq_valid.1 h)
      have hentries : ImageRegion.check o' r.entries = .valid r := ImageRegion.check_entries hr
      change ((ImageRegion.check o' r.entries).map image).within (.key "image") = _
      rw [hentries]
      rfl
    · cases h
  · cases h

namespace Slide

/-- A slide that a check has accepted, of whatever kind and from whatever data. -/
def IsValidated (s : Slide Float) : Prop :=
  ∃ (o : Origin) (m : SlideModel) (v : Json), checkModel o m v = .valid s

theorem checkModel_templated_toJson (o : Origin) (s : TemplatedSlide) :
    checkModel o .templated (templated s).toJson = .valid (templated s) := by
  obtain ⟨title, content, layout, query⟩ := s
  cases layout <;> cases query <;> rfl

/-- An accepted slide is accepted again in its printed form, as a slide of its kind. -/
theorem IsValidated.checkModel_toJson {s : Slide Float} (h : s.IsValidated) (o : Origin) :
    checkModel o s.model s.toJson = .valid s := by
  obtain ⟨o', m, v, hv⟩ := h
  cases m with
  | templated =>
    obtain ⟨slide, rfl⟩ := checkModel_templated_eq_valid hv
    exact checkModel_templated_toJson o slide
  | generic =>
    obtain ⟨objects, rfl, hobjects⟩ := checkModel_generic_eq_valid hv
    have hlist : list o (SlideObject.check o) (.arr (objects.map SlideObject.toJson)) =
        .valid objects := by
      refine Checked.each_map_eq_valid fun x hx => ?_
      obtain ⟨w, hw⟩ := hobjects x hx
      exact SlideObject.check_toJson hw
    have hfield : Field.required (.plain "objects")
        [("objects", .arr (objects.map SlideObject.toJson))] (list o (SlideObject.check o)) =
          .valid objects := Checked.within_eq_valid.2 hlist
    have hothers : noOthers [.plain "objects"]
        [("objects", .arr (objects.map SlideObject.toJson))] = .valid () := rfl
    change (checkGeneric o [("objects", .arr (objects.map SlideObject.toJson))]).map generic = _
    rw [checkGeneric, hfield, hothers]
    rfl

/-- No printed templated slide is taken for a generic one: it has no objects. -/
theorem check_toJson_templated (o : Origin) (s : TemplatedSlide) :
    check o (templated s).toJson = .valid (templated s) := by
  have hgeneric : ∃ issues, checkModel o .generic (templated s).toJson = .invalid issues :=
    ⟨_, rfl⟩
  obtain ⟨issues, hissues⟩ := hgeneric
  rw [check, hissues, checkModel_templated_toJson]

theorem IsValidated.check_toJson {s : Slide Float} (h : s.IsValidated) (o : Origin) :
    check o s.toJson = .valid s := by
  have hs := h.checkModel_toJson o
  cases s with
  | generic objects =>
    rw [check, show checkModel o .generic _ = _ from hs]
  | templated slide => exact check_toJson_templated o slide

end Slide

namespace Deck

/-- A deck that validation has produced: read as a whole, or with the slides of a reply. -/
def IsValidated (d : Deck Float) : Prop :=
  (∃ (o : Origin) (v : Json), check o v = .valid d) ∨
    ∃ (o : Origin) (m : SlideModel) (v : Json), checkPayload o m v = .valid d.slides

theorem IsValidated.slides {d : Deck Float} (h : d.IsValidated) : ∀ s ∈ d.slides, s.IsValidated := by
  intro s hs
  rcases h with ⟨o, v, hv⟩ | ⟨o, m, v, hv⟩
  · obtain ⟨w, hw⟩ := check_eq_valid hv s hs
    obtain ⟨m, hm⟩ := Slide.check_eq_valid hw
    exact ⟨o, m, w, hm⟩
  · obtain ⟨es, hes⟩ := record_eq_valid hv
    obtain ⟨w, hw⟩ := Field.required_eq_valid hes
    obtain ⟨u, hu⟩ := mem_of_list_eq_valid hw s hs
    exact ⟨o, m, u, hu⟩

/-- All of a deck as data: its slides as they are printed, and its topic. -/
def dump (d : Deck Float) : Json :=
  .obj [("slides", .arr (d.slides.map Slide.toJson)), ("topic", Json.ofOption .str d.topic)]

/-- The printed slides of a deck are accepted as slides of their kind. -/
theorem IsValidated.checkPayload_toJson {d : Deck Float} (h : d.IsValidated) {m : SlideModel}
    (hm : ∀ s ∈ d.slides, s.model = m) (o : Origin) :
    checkPayload o m d.toJson = .valid d.slides := by
  have hlist : list o (Slide.checkModel o m) (.arr (d.slides.map Slide.toJson)) =
      .valid d.slides := by
    refine Checked.each_map_eq_valid fun s hs => ?_
    rw [← hm s hs]
    exact (h.slides s hs).checkModel_toJson o
  exact Checked.within_eq_valid.2 hlist

theorem IsValidated.check_dump {d : Deck Float} (h : d.IsValidated) (o : Origin) :
    check o d.dump = .valid d := by
  obtain ⟨slides, topic⟩ := d
  have hlist : list o (Slide.check o) (.arr (slides.map Slide.toJson)) = .valid slides :=
    Checked.each_map_eq_valid fun s hs => (h.slides s hs).check_toJson o
  have hslides : Field.optional (.plain "slides") [("slides", .arr (slides.map Slide.toJson)),
      ("topic", Json.ofOption .str topic)] [] (list o (Slide.check o)) = .valid slides :=
    Checked.within_eq_valid.2 hlist
  have htopic : Field.optional (.plain "topic") [("slides", .arr (slides.map Slide.toJson)),
      ("topic", Json.ofOption .str topic)] none (orNull string) = .valid topic := by
    cases topic <;> rfl
  change Deck.mk <$> _ <*> _ = _
  rw [hslides, htopic]
  rfl

end Deck

/-! ## Decks in print -/

def Length.numbers : Length Float → List Json
  | inches x => [.float x]
  | percent _ => []

def Region.numbers (r : Region Float) : List Json :=
  r.x.numbers ++ r.y.numbers ++ r.w.numbers ++ r.h.numbers

def SlideObject.numbers : SlideObject Float → List Json
  | text r => .int r.fontSize :: r.region.numbers
  | image r => r.region.numbers

def Slide.numbers : Slide Float → List Json
  | generic objects => objects.flatMap SlideObject.numbers
  | templated _ => []

def Deck.numbers (d : Deck Float) : List Json := d.slides.flatMap Slide.numbers

def Json.IsFinite : Json → Prop
  | int _ => True
  | float x => Scalar.nonFinite? x = none
  | _ => False

open Json.Reply

/-- A finite number that is read back from its text is one token there. -/
theorem Json.IsFinite.isSpelled {v : Json} (h : v.IsFinite)
    (hread : Json.Reply.read (v.print Json.deckStyle) = .ok v) : IsSpelled v := by
  refine lex_of_read ?_ hread
  cases v with
  | int n =>
    rw [Json.print]
    exact areNumeric_toString n
  | float x =>
    have hx : x.isNaN = false ∧ x.isInf = false := by
      simp only [IsFinite, Scalar.nonFinite?] at h
      split_ifs at h with hnan hinf
      exact ⟨Bool.eq_false_iff.2 hnan, Bool.eq_false_iff.2 hinf⟩
    rw [Json.print]
    exact areNumeric_write _ hx.1 hx.2
  | _ => cases h

theorem Length.isFinite_numbers {positive : Bool} {l : Length Float} (h : l.IsAdmitted positive) :
    ∀ v ∈ l.numbers, v.IsFinite := by
  cases l with
  | inches x => simpa [numbers, Json.IsFinite] using h.1
  | percent p => simp [numbers]

theorem Region.isFinite_numbers {r : Region Float} (h : r.IsAdmitted) :
    ∀ v ∈ r.numbers, v.IsFinite := by
  simp only [numbers, List.forall_mem_append]
  exact ⟨⟨⟨Length.isFinite_numbers h.x, Length.isFinite_numbers h.y⟩, Length.isFinite_numbers h.w⟩,
    Length.isFinite_numbers h.h⟩

theorem Slide.isFinite_numbers {s : Slide Float} (h : s.IsAdmitted) :
    ∀ v ∈ s.numbers, v.IsFinite := by
  cases s with
  | generic objects =>
    intro v hv
    obtain ⟨x, hx, hxv⟩ := List.mem_flatMap.1 hv
    have hadmitted := h x hx
    cases x with
    | text r =>
      rcases List.mem_cons.1 hxv with rfl | hxv
      · trivial
      · exact Region.isFinite_numbers hadmitted.1 v hxv
    | image r => exact Region.isFinite_numbers hadmitted v hxv
  | templated slide => simp [numbers]

theorem Length.isReadable {l : Length Float} (h : ∀ v ∈ l.numbers, IsSpelled v) (depth : Nat) :
    IsReadable depth l.toJson := by
  cases l with
  | inches x => exact .spelled (h (.float x) List.mem_cons_self)
  | percent p => exact .str p.text

theorem Region.isReadable_entries {r : Region Float} (h : ∀ v ∈ r.numbers, IsSpelled v)
    (depth : Nat) : ∀ e ∈ r.entries, IsReadable depth e.2 := by
  simp only [numbers, List.forall_mem_append] at h
  simp only [entries, List.forall_mem_cons]
  exact ⟨Length.isReadable h.1.1.1 depth, Length.isReadable h.1.1.2 depth,
    Length.isReadable h.1.2 depth, Length.isReadable h.2 depth, by simp⟩

theorem SlideObject.isReadable {x : SlideObject Float} (h : ∀ v ∈ x.numbers, IsSpelled v)
    (depth : Nat) : IsReadable (depth + 1) x.toJson := by
  cases x with
  | text r =>
    rw [numbers, List.forall_mem_cons] at h
    have hkeys : (r.entries.map Prod.fst).Nodup := by simp [TextRegion.entries, Region.entries]
    refine .obj hkeys ?_
    rw [List.forall_mem_append]
    refine ⟨Region.isReadable_entries h.2 depth, ?_⟩
    simp only [List.forall_mem_cons]
    exact ⟨.str _, .str _, .spelled h.1, .spelled (isSpelled_bool _), .str _, by simp⟩
  | image r =>
    have hkeys : (r.entries.map Prod.fst).Nodup := by simp [ImageRegion.entries, Region.entries]
    refine .obj hkeys ?_
    rw [List.forall_mem_append]
    refine ⟨Region.isReadable_entries h depth, ?_⟩
    simp only [List.forall_mem_cons]
    exact ⟨.str _, .str _, by simp⟩

theorem Slide.isReadable {s : Slide Float} (h : ∀ v ∈ s.numbers, IsSpelled v) (depth : Nat) :
    IsReadable (depth + 3) s.toJson := by
  have hoption (x : Option String) : IsReadable (depth + 2) (Json.ofOption .str x) := by
    cases x with
    | none => exact .spelled isSpelled_null
    | some text => exact .str text
  cases s with
  | generic objects =>
    refine .obj (by simp) ?_
    simp only [List.forall_mem_cons]
    refine ⟨.arr ?_, by simp⟩
    rw [List.forall_mem_map]
    intro x hx
    exact SlideObject.isReadable (fun v hv => h v (List.mem_flatMap.2 ⟨x, hx, hv⟩)) depth
  | templated slide =>
    refine .obj (by simp) ?_
    simp only [List.forall_mem_cons]
    exact ⟨.str _, .str _, hoption _, hoption _, by simp⟩

/-- No more than five arrays and objects are open at once in the text of a deck. -/
theorem Deck.isReadable {d : Deck Float} (h : ∀ v ∈ d.numbers, IsSpelled v) :
    IsReadable 5 d.toJson := by
  refine .obj (by simp) ?_
  simp only [List.forall_mem_cons]
  refine ⟨.arr ?_, by simp⟩
  rw [List.forall_mem_map]
  intro s hs
  exact Slide.isReadable (fun v hv => h v (List.mem_flatMap.2 ⟨s, hs, hv⟩)) 0

/-- A deck that has been validated is read back from its text if its numbers are. -/
theorem Deck.IsValidated.read_print {d : Deck Float} (h : d.IsValidated)
    (hnumbers : ∀ v ∈ d.numbers, Json.Reply.read (v.print Json.deckStyle) = .ok v) :
    Json.Reply.read d.print = .ok d.toJson := by
  have hspelled : ∀ v ∈ d.numbers, IsSpelled v := by
    intro v hv
    obtain ⟨s, hs, hsv⟩ := List.mem_flatMap.1 hv
    obtain ⟨o, m, w, hw⟩ := h.slides s hs
    have hfinite := Slide.isFinite_numbers (Slide.checkModel_isAdmitted hw) v hsv
    exact hfinite.isSpelled (hnumbers v hv)
  exact Json.Reply.read_print (Deck.isReadable hspelled) (by decide)

/-! ## Edits -/

def Turn.draft? : Turn → Option String
  | said .assistant content => some content
  | _ => none

namespace Conversation

def Request.draft? (q : Request) : Option String := q.messages.reverse.findSome? Turn.draft?

def editRequest (model : String) (m : SlideModel) (turns : List Turn) (d : Deck Float)
    (instruction : String) : Request :=
  request model m (turns ++ [.said .assistant d.print]) (editMessage instruction)

/-- Whatever was said before, the draft of an edit is the deck in print. -/
theorem draft?_editRequest (model : String) (m : SlideModel) (turns : List Turn) (d : Deck Float)
    (instruction : String) :
    (editRequest model m turns d instruction).draft? = some d.print := by
  simp only [editRequest, request, Request.draft?, List.reverse_append, List.reverse_cons,
    List.reverse_nil, List.nil_append, List.cons_append]
  rfl

theorem isEmpty_print (d : Deck Float) : d.print.isEmpty = false := by
  rw [Deck.print, Deck.toJson, Json.print]
  simp

theorem ofReply_eq_ok {m : SlideModel} {r : Response} {content : String} {v : Json}
    {ss : List (Slide Float)} (hcontent : r.content = some content)
    (hcontent_ne : content.isEmpty = false) (hread : Json.Reply.read content = .ok v)
    (hcheck : Deck.checkPayload .text m v = .valid ss) : ofReply m (.ok r) = .ok ss := by
  simp [ofReply, hcontent, hcontent_ne, slides, hread, hcheck]

variable {σ : Type} {service : Service σ} {model : String} {m : SlideModel} {turns : List Turn}

/-- An edit comes to what the reply to its one request is read as, on the topic of the deck. -/
theorem outcome_edit (d : Deck Float) (instruction : String) (t : σ) :
    (edit service model m.word turns d instruction).outcome t =
      ((ofReply m (service (editRequest model m turns d instruction) t).1).map fun ss =>
        ⟨ss, d.topic⟩, (service (editRequest model m turns d instruction) t).2) := by
  rw [edit, Attempt.outcome_bind, outcome_ask, ← editRequest]
  cases ofReply m (service (editRequest model m turns d instruction) t).1 <;> rfl

end Conversation

/-- A service that gives every draft back as it is. -/
def Conversation.Service.echo : Service Unit := fun q => pure (.ok ⟨q.draft?, ""⟩)

namespace Deck

def handoutData : Json :=
  .obj [("slides", .arr
    [.obj [("objects", .arr [])],
      .obj [("objects", .arr
        [.obj [("type", .str "text"), ("x", .str " .5 "), ("y", .str " 10.5 % "),
            ("w", .str "80%"), ("h", .int 2), ("text", .str "a \"word\"\n"),
            ("align", .str "center")],
          .obj [("type", .str "image"), ("w", .bool true), ("h", .float 0.75)]])]])]

def handout : Deck Float where
  slides :=
    [.generic [],
      .generic
        [.text ⟨⟨.inches 0.5, .percent ⟨['1', '0'], ['5']⟩, .percent ⟨['8', '0'], []⟩, .inches 2⟩,
            "a \"word\"\n", 18, false, .center⟩,
          .image ⟨⟨.inches 0, .inches 0, .inches 1, .inches 0.75⟩, ""⟩]]
  topic := none

def agenda : Deck Float where
  slides :=
    [.templated ⟨"Today", "", none, some ""⟩, .templated ⟨"", "left | right", some "wide", none⟩]
  topic := some "Today"

end Deck

/-- The printed copy of a validated deck is the deck: its data is accepted as it, and an edit whose
reply is the copy that was sent ends with it, slides and topic. Of the text of the copy it is only
taken for granted that single numbers are read back. -/
theorem Conversation.edit_returns_unchanged_draft {d : Deck Float} (hd : d.IsValidated)
    {m : SlideModel} (hm : ∀ s ∈ d.slides, s.model = m) :
    (∀ o, Deck.checkPayload o m d.toJson = .valid d.slides ∧ Deck.check o d.dump = .valid d) ∧
      ∀ {σ : Type} (service : Service σ) (model : String) (turns : List Turn)
        (instruction : String) (t : σ),
        (∀ v ∈ d.numbers, Json.Reply.read (v.print Json.deckStyle) = .ok v) →
        (∃ r, (service (editRequest model m turns d instruction) t).1 = .ok r ∧
          r.content = (editRequest model m turns d instruction).draft?) →
        (edit service model m.word turns d instruction).outcome t =
          (.ok d, (service (editRequest model m turns d instruction) t).2) := by
  refine ⟨fun o => ⟨hd.checkPayload_toJson hm o, hd.check_dump o⟩, ?_⟩
  intro σ service model turns instruction t hnumbers ⟨r, hr, hcontent⟩
  rw [draft?_editRequest] at hcontent
  rw [outcome_edit, hr, ofReply_eq_ok hcontent (isEmpty_print d) (hd.read_print hnumbers)
    (hd.checkPayload_toJson hm .text)]
  rfl

theorem Conversation.edit_returns_unchanged_draft_handout :
    Deck.check .data Deck.handoutData = .valid Deck.handout ∧
      (edit Service.echo "gpt" "generic" [] Deck.handout "Shorter").outcome () =
        (.ok Deck.handout, ()) ∧
      (edit Service.echo "gpt" "templated" [.said .user "Hello"] Deck.agenda "").outcome () =
        (.ok Deck.agenda, ()) := by
  have hdata : Deck.check .data Deck.handoutData = .valid Deck.handout := by decide +kernel
  have hagenda : Deck.checkPayload .text .templated Deck.agenda.toJson =
      .valid Deck.agenda.slides := by decide +kernel
  refine ⟨hdata, ?_, ?_⟩
  · exact (edit_returns_unchanged_draft (.inl ⟨_, _, hdata⟩) (m := .generic) (by decide)).2
      Service.echo "gpt" [] "Shorter" () (by decide +kernel) ⟨_, rfl, rfl⟩
  · exact (edit_returns_unchanged_draft (.inr ⟨_, _, _, hagenda⟩) (m := .templated) (by decide)).2
      Service.echo "gpt" [.said .user "Hello"] "" () (by decide +kernel) ⟨_, rfl, rfl⟩

end DeckPress
