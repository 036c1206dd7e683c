import DeckPress.Failure
import DeckPress.Proofs.SlideModels
import Mathlib.Order.Bounds.Defs

/-!
# The first slide to blame

Data that is no deck is told by its first issue. The parts of data are checked in order, so the
first issue comes from the first part that has one: from the first of the given slides that is of
neither kind, if there is one, and else from outside all slides.
-/
namespace DeckPress

open Validation

/-- The issue as it is told one step further out. -/
def Validation.Issue.under (s : Step) (i : Issue) : Issue := { i with path := s :: i.path }

namespace Checked

variable {α β : Type}

/-- The issue that comes first. -/
def firstIssue? : Checked α → Option Issue
  | valid _ => none
  | invalid issues => issues.head?

theorem firstIssue?_functor_map (f : α → β) (x : Checked α) :
    (f <$> x).firstIssue? = x.firstIssue? := by
  cases x <;> rfl

theorem firstIssue?_within (s : Step) (x : Checked α) :
    (x.within s).firstIssue? = x.firstIssue?.map (Issue.under s) := by
  cases x with
  | valid a => rfl
  | invalid issues => cases issues <;> rfl

theorem firstIssue?_seq_of_some {f : Checked (α → β)} {i : Issue} (h : f.firstIssue? = some i)
    (x : Checked α) : (f <*> x).firstIssue? = some i := by
  cases f with
  | valid g => cases h
  | invalid issues =>
    obtain ⟨more, rfl⟩ := List.head?_eq_some_iff.1 h
    cases x <;> rfl

theorem firstIssue?_seq_of_valid {f : Checked (α → β)} {g : α → β} (h : f = .valid g)
    (x : Checked α) : (f <*> x).firstIssue? = x.firstIssue? := by
  subst h
  cases x <;> rfl

/-- The first issue with a list is that with the first of its items that has one. -/
theorem firstIssue?_eachFrom {check : Json → Checked α} {before after : List Json} {v : Json}
    {i : Issue} (hbefore : ∀ w ∈ before, ∃ a, check w = .valid a)
    (hv : (check v).firstIssue? = some i) (n : Nat) :
    (eachFrom check n (before ++ v :: after)).firstIssue? =
      some (i.under (.index (n + before.length))) := by
  -- The running position counts the items before, so the induction is on these alone.
  induction before generalizing n with
  | nil =>
    refine firstIssue?_seq_of_some ?_ _
    rw [firstIssue?_functor_map, firstIssue?_within, hv]
    rfl
  | cons w before ih =>
    rw [List.forall_mem_cons] at hbefore
    obtain ⟨⟨a, ha⟩, hbefore⟩ := hbefore
    have hhead : List.cons <$> (check w).within (.index n) = .valid (List.cons a) := by
      rw [ha]
      rfl
    rw [List.cons_append, eachFrom, firstIssue?_seq_of_valid hhead, ih hbefore, List.length_cons,
      Nat.add_assoc, Nat.add_comm 1]

theorem exists_eachFrom_eq_valid {check : Json → Checked α} {vs : List Json}
    (h : ∀ v ∈ vs, ∃ a, check v = .valid a) (n : Nat) : ∃ as, eachFrom check n vs = .valid as := by
  induction vs with
  | nil => exact ⟨[], eachFrom_eq_valid.2 .nil⟩
  | cons v vs ih =>
    rw [List.forall_mem_cons] at h
    obtain ⟨⟨a, ha⟩, h⟩ := h
    obtain ⟨as, has⟩ := ih h
    exact ⟨a :: as, eachFrom_eq_valid.2 (.cons ha (eachFrom_eq_valid.1 has))⟩

/-- A refusal, if it is one, comes with an issue. -/
def IsExplained (x : Checked α) : Prop := x ≠ invalid []

theorem IsExplained.exists_firstIssue? {x : Checked α} (h : x.IsExplained)
    (hx : ∀ a, x ≠ .valid a) : ∃ i, x.firstIssue? = some i := by
  cases x with
  | valid a => exact absurd rfl (hx a)
  | invalid issues =>
    cases issues with
    | nil => exact absurd rfl h
    | cons i more => exact ⟨i, rfl⟩

theorem isExplained_fail (f : Fault) : (fail f : Checked α).IsExplained := nofun

theorem IsExplained.map {x : Checked α} (h : x.IsExplained) (f : α → β) :
    (f <$> x).IsExplained := by
  cases x with
  | valid a => nofun
  | invalid issues => simpa [IsExplained, Functor.map, Checked.map] using h

theorem IsExplained.seq {f : Checked (α → β)} {x : Checked α} (hf : f.IsExplained)
    (hx : x.IsExplained) : (f <*> x).IsExplained := by
  cases f with
  | valid g => exact hx.map g
  | invalid issues =>
    cases x with
    | valid a => simpa [IsExplained, Seq.seq, Checked.seq] using hf
    | invalid more =>
      simp_all [IsExplained, Seq.seq, Checked.seq]

theorem IsExplained.within {x : Checked α} (h : x.IsExplained) (s : Step) :
    (x.within s).IsExplained := by
  cases x with
  | valid a => nofun
  | invalid issues => simpa [IsExplained, Checked.within] using h

end Checked

namespace Validation

open Checked

variable {α : Type} {check : Json → Checked α} {es : Json.Entries}

theorem isExplained_required (h : ∀ v, (check v).IsExplained) (f : Field) :
    (f.required es check).IsExplained := by
  unfold Field.required
  split
  · exact (h _).within _
  · exact (isExplained_fail _).within _

theorem isExplained_optional (h : ∀ v, (check v).IsExplained) (f : Field) (default : α) :
    (f.optional es default check).IsExplained := by
  unfold Field.optional
  split
  · exact (h _).within _
  · nofun

theorem isExplained_noOthers (fs : List Field) (es : Json.Entries) :
    (noOthers fs es).IsExplained := by
  unfold noOthers
  split
  · nofun
  · next others hothers => simpa [IsExplained] using hothers

theorem isExplained_string (v : Json) : (string v).IsExplained := by
  cases v <;> nofun

theorem isExplained_orNull (h : ∀ v, (check v).IsExplained) (v : Json) :
    (orNull check v).IsExplained := by
  unfold orNull
  split
  · nofun
  · exact (h _).map some

theorem isExplained_record {check : Json.Entries → Checked α} (h : ∀ es, (check es).IsExplained)
    (o : Origin) (name : String) (v : Json) : (record o name check v).IsExplained := by
  cases v with
  | obj es => exact h es
  | _ => exact isExplained_fail _

end Validation

namespace Slide

open Checked

theorem isExplained_checkTemplated (es : Json.Entries) : (checkTemplated es).IsExplained := by
  have hstring := isExplained_string
  have hnullable := isExplained_orNull hstring
  exact (((((isExplained_required hstring _).map _).seq (isExplained_optional hstring _ _)).seq
    (isExplained_optional hnullable _ _)).seq (isExplained_optional hnullable _ _)).seq
    (isExplained_noOthers _ es)

/-- What is no slide is refused at least because it is no templated slide. -/
theorem isExplained_check (o : Origin) (v : Json) : (check o v).IsExplained := by
  have htemplated : (checkModel o .templated v).IsExplained :=
    (isExplained_record isExplained_checkTemplated o _ v).map templated
  unfold check
  split
  · nofun
  · nofun
  · next as bs _ hbs =>
    rw [hbs] at htemplated
    -- The issues of both kinds are told, and those of the second one are known not to be none.
    change invalid (as.map (Issue.under _) ++ bs.map (Issue.under _)) ≠ _
    simp_all [IsExplained]

/-- The value is a slide of one of the kinds. -/
def Fits (v : Json) : Prop := ∃ m s, checkModel .data m v = .valid s

theorem fits_iff_check {v : Json} : Fits v ↔ ∃ s, check .data v = .valid s := by
  simp only [Fits, check_eq_valid_iff]
  exact exists_comm

instance (v : Json) : Decidable (Fits v) :=
  decidable_of_iff ((check .data v).accepted?.isSome = true) <| by
    simp only [Option.isSome_iff_exists, accepted?_eq_some, fits_iff_check]

end Slide

namespace Deck

open Checked

/-- The slides that data gives: all its items, or those of its list of slides. -/
def items? : Json → Option (List Json)
  | .arr vs => some vs
  | .obj es =>
    match Json.Entries.get? es "slides" with
    | some (.arr vs) => some vs
    | _ => none
  | _ => none

theorem items?_eq_some_iff {data : Json} {vs : List Json} :
    items? data = some vs ↔
      ∃ es : Json.Entries, wrapped data = .obj es ∧ es.get? "slides" = some (.arr vs) := by
  cases data with
  | arr ws => simp [items?, wrapped, Json.Entries.get?]
  | obj es =>
    simp only [items?, wrapped, Json.obj.injEq]
    split <;> simp_all
  | _ => simp [items?, wrapped]

variable {es : Json.Entries}

/-- What the check makes of the slides of a record. -/
def checkedSlides (es : Json.Entries) : Checked (List (Slide Float)) :=
  Field.optional (.plain "slides") es [] (list .data (Slide.check .data))

theorem firstIssue?_checkedSlides {before after : List Json} {v : Json} {i : Issue}
    (hes : es.get? "slides" = some (.arr (before ++ v :: after)))
    (hbefore : ∀ w ∈ before, Slide.Fits w) (hv : (Slide.check .data v).firstIssue? = some i) :
    (checkedSlides es).firstIssue? =
      some ((i.under (.index before.length)).under (.key "slides")) := by
  have hfirst : (eachFrom (Slide.check .data) 0 (before ++ v :: after)).firstIssue? = _ :=
    firstIssue?_eachFrom (fun w hw => Slide.fits_iff_check.1 (hbefore w hw)) hv 0
  rw [Nat.zero_add] at hfirst
  rw [checkedSlides, Field.optional, Field.find?_plain, hes]
  change ((each _ _).within _).firstIssue? = _
  rw [firstIssue?_within, each, hfirst]
  rfl

theorem exists_checkedSlides_eq_valid {vs : List Json} (hes : es.get? "slides" = some (.arr vs))
    (hfits : ∀ v ∈ vs, Slide.Fits v) : ∃ ss, checkedSlides es = .valid ss := by
  have hall : ∀ v ∈ vs, ∃ s, Slide.check .data v = .valid s := fun v hv =>
    Slide.fits_iff_check.1 (hfits v hv)
  obtain ⟨ss, hss⟩ := exists_eachFrom_eq_valid hall 0
  exact ⟨ss, Field.optional_plain_eq_valid_iff.2 (.inr ⟨_, hes, hss⟩)⟩

/-- If all slides that are given fit, there may be no list of them, but no slide is to blame. -/
theorem checkedSlides_of_fits
    (hfits : ∀ vs, es.get? "slides" = some (.arr vs) → ∀ v ∈ vs, Slide.Fits v) :
    (∃ ss, checkedSlides es = .valid ss) ∨
      ∃ f, (checkedSlides es).firstIssue? = some ⟨[.key "slides"], f⟩ := by
  by_cases hlist : ∃ vs, es.get? "slides" = some (.arr vs)
  · obtain ⟨vs, hvs⟩ := hlist
    exact .inl (exists_checkedSlides_eq_valid hvs (hfits vs hvs))
  · rw [checkedSlides, Field.optional, Field.find?_plain]
    cases hes : es.get? "slides" with
    | none => exact .inl ⟨[], rfl⟩
    | some w =>
      cases w with
      | arr vs => exact absurd ⟨vs, hes⟩ hlist
      | _ => exact .inr ⟨_, rfl⟩

def checkedTopic (es : Json.Entries) : Checked (Option String) :=
  Field.optional (.plain "topic") es none (orNull string)

theorem slideIndex_firstIssue?_checkedTopic {i : Issue}
    (h : (checkedTopic es).firstIssue? = some i) : slideIndex i.path = none := by
  rw [checkedTopic, Field.optional, Field.find?_plain] at h
  cases hes : es.get? "topic" with
  | none =>
    rw [hes] at h
    cases h
  | some v =>
    rw [hes] at h
    change ((orNull string v).within _).firstIssue? = _ at h
    rw [firstIssue?_within] at h
    obtain ⟨j, -, rfl⟩ := Option.map_eq_some_iff.1 h
    rfl

/-- A topic is given that is neither null nor a text. -/
def HasWrongTopic (data : Json) : Prop :=
  ∃ (es : Json.Entries) (v : Json), wrapped data = .obj es ∧ es.get? "topic" = some v ∧
    v ≠ .null ∧ ∀ s, v ≠ .str s

theorem exists_checkedTopic_iff :
    (∃ topic, checkedTopic es = .valid topic) ↔
      ∀ v, es.get? "topic" = some v → v = .null ∨ ∃ s, v = .str s := by
  have horNull (v : Json) :
      (∃ topic, orNull string v = .valid topic) ↔ v = .null ∨ ∃ s, v = .str s := by
    cases v <;> simp [orNull, string, Checked.map, Checked.fail]
  simp only [checkedTopic, Field.optional_plain_eq_valid_iff]
  cases es.get? "topic" with
  | none => simp
  | some v => simp [← horNull]

theorem check_obj (es : Json.Entries) :
    check .data (.obj es) = Deck.mk <$> checkedSlides es <*> checkedTopic es := rfl

theorem firstIssue?_check_obj {i : Issue} (h : (checkedSlides es).firstIssue? = some i) :
    (check .data (.obj es)).firstIssue? = some i := by
  rw [check_obj]
  exact firstIssue?_seq_of_some ((firstIssue?_functor_map _ _).trans h) _

/-- The first issue with data all of whose slides fit is with no slide. -/
theorem slideIndex_firstIssue?_check {v : Json} {i : Issue}
    (hfits : ∀ es : Json.Entries, v = .obj es → ∀ vs, es.get? "slides" = some (.arr vs) →
      ∀ w ∈ vs, Slide.Fits w)
    (h : (check .data v).firstIssue? = some i) : slideIndex i.path = none := by
  cases v with
  | obj es =>
    rcases checkedSlides_of_fits (hfits es rfl) with ⟨ss, hss⟩ | ⟨f, hf⟩
    · have hmk : Deck.mk <$> checkedSlides es = .valid (Deck.mk ss) := by
        rw [hss]
        rfl
      rw [check_obj, firstIssue?_seq_of_valid hmk] at h
      exact slideIndex_firstIssue?_checkedTopic h
    · obtain rfl := Option.some.inj ((firstIssue?_check_obj hf).symm.trans h)
      rfl
  | _ =>
    cases h
    rfl

theorem exists_parse_eq_error_iff {data : Json} {vs : List Json} (hvs : items? data = some vs)
    (hfits : ∀ v ∈ vs, Slide.Fits v) : (∃ m, parse data = .error m) ↔ HasWrongTopic data := by
  obtain ⟨es, hdata, hes⟩ := items?_eq_some_iff.1 hvs
  obtain ⟨ss, hss⟩ := exists_checkedSlides_eq_valid hes hfits
  have hwrong : HasWrongTopic data ↔ ¬∃ topic, checkedTopic es = .valid topic := by
    rw [exists_checkedTopic_iff, HasWrongTopic, hdata]
    simp
  have hparse : (∃ m, parse data = .error m) ↔
      ∃ issues, Deck.mk <$> checkedSlides es <*> checkedTopic es = .invalid issues := by
    simp only [parse_eq_error_iff, hdata, check_obj]
    exact ⟨fun ⟨_, issues, h, _⟩ => ⟨issues, h⟩, fun ⟨issues, h⟩ => ⟨_, issues, h, rfl⟩⟩
  rw [hwrong, hparse, hss]
  cases checkedTopic es with
  | valid topic => exact iff_of_false nofun fun h => h ⟨topic, rfl⟩
  | invalid issues => exact iff_of_true ⟨issues, rfl⟩ nofun

/-- The slide to blame is told from the first issue, if there is one. -/
theorem slide_mismatch (data : Json) (issues : List Issue) :
    (mismatch data issues).slide = issues.head?.bind fun i => slideIndex i.path := by
  cases issues <;> rfl

end Deck

theorem isLeast_length {α : Type} {P : α → Prop} {before after : List α} {a : α}
    (hbefore : ∀ b ∈ before, P b) (ha : ¬P a) :
    IsLeast {i | ∃ b, (before ++ a :: after)[i]? = some b ∧ ¬P b} before.length := by
  refine ⟨⟨a, by simp, ha⟩, ?_⟩
  rintro i ⟨b, hb, hPb⟩
  by_contra hi
  rw [List.getElem?_append_left (Nat.lt_of_not_le hi)] at hb
  exact hPb (hbefore b (List.mem_of_getElem? hb))

theorem exists_first_not {α : Type} {P : α → Prop} {as : List α} (h : ∃ a ∈ as, ¬P a) :
    ∃ before a after, as = before ++ a :: after ∧ (∀ b ∈ before, P b) ∧ ¬P a := by
  induction as with
  | nil => simp at h
  | cons a as ih =>
    by_cases ha : P a
    · obtain ⟨before, b, after, rfl, hbefore, hb⟩ := ih (by simpa [ha] using h)
      exact ⟨a :: before, b, after, rfl, List.forall_mem_cons.2 ⟨ha, hbefore⟩, hb⟩
    · exact ⟨[], a, as, rfl, nofun, ha⟩

namespace Deck

open Checked

/-- The beginning of data as text, as it is quoted. -/
def quoted (data : Json) : String :=
  String.ofList (((wrapped data).print Json.quotedStyle).toList.take 500)

/-- What is to be said about data that is no deck: the report names the first slide that is of
neither kind, whatever else is wrong, and no slide if there is none of these. It quotes the
beginning of the data as text. -/
structure BlamesFirstMisfit (data : Json) : Prop where
  misfit : ∀ vs, items? data = some vs → (∃ v ∈ vs, ¬Slide.Fits v) →
    ∃ i m, IsLeast {j | ∃ v, vs[j]? = some v ∧ ¬Slide.Fits v} i ∧
      parse data = .error (.mismatch m) ∧
      (Compiler.Fault.mismatch m).report? = some (.schema m.message (quoted data) (some i))
  otherwise : ∀ r, parse data = .error r →
    (∀ vs, items? data = some vs → ∀ v ∈ vs, Slide.Fits v) →
    ∃ m, r = .mismatch m ∧
      (Compiler.Fault.mismatch m).report? = some (.schema m.message (quoted data) none)

theorem report?_mismatch (data : Json) (issues : List Issue) :
    (Compiler.Fault.mismatch (mismatch (wrapped data) issues)).report? =
      some (.schema (mismatch (wrapped data) issues).message (quoted data)
        (issues.head?.bind fun i => slideIndex i.path)) := by
  rw [Compiler.Fault.report?, slide_mismatch]
  rfl

/-- Data with slides of which some are of neither kind is rejected, and its first issue lies in the
first of them. -/
theorem exists_issues_of_misfit {data : Json} {vs : List Json} (hvs : items? data = some vs)
    (hmisfit : ∃ v ∈ vs, ¬Slide.Fits v) :
    ∃ i issues, IsLeast {j | ∃ v, vs[j]? = some v ∧ ¬Slide.Fits v} i ∧
      check .data (wrapped data) = .invalid issues ∧
      (issues.head?.bind fun j => slideIndex j.path) = some i := by
  obtain ⟨before, v, after, rfl, hbefore, hv⟩ := exists_first_not hmisfit
  obtain ⟨es, hdata, hes⟩ := items?_eq_some_iff.1 hvs
  obtain ⟨i, hi⟩ := (Slide.isExplained_check .data v).exists_firstIssue? fun s hs =>
    hv (Slide.fits_iff_check.2 ⟨s, hs⟩)
  have hfirst := firstIssue?_check_obj (firstIssue?_checkedSlides hes hbefore hi)
  rw [← hdata] at hfirst
  cases hcheck : check .data (wrapped data) with
  | valid d =>
    rw [hcheck] at hfirst
    cases hfirst
  | invalid issues =>
    rw [hcheck] at hfirst
    refine ⟨before.length, issues, isLeast_length hbefore hv, rfl, ?_⟩
    rw [show issues.head? = _ from hfirst]
    rfl

theorem slideIndex_head?_of_fits {data : Json} {issues : List Issue}
    (hcheck : check .data (wrapped data) = .invalid issues)
    (hfits : ∀ vs, items? data = some vs → ∀ v ∈ vs, Slide.Fits v) :
    (issues.head?.bind fun i => slideIndex i.path) = none := by
  rw [Option.bind_eq_none_iff]
  intro i hi
  refine slideIndex_firstIssue?_check (v := wrapped data) (fun es hdata vs hes => ?_) ?_
  · exact hfits vs (items?_eq_some_iff.2 ⟨es, hdata, hes⟩)
  · rw [hcheck]
    exact hi

theorem blamesFirstMisfit_of_isPrintable {data : Json}
    (hprint : (∃ r, parse data = .error r) → (wrapped data).IsPrintable 985) :
    BlamesFirstMisfit data where
  misfit vs hvs hmisfit := by
    obtain ⟨i, issues, hi, hcheck, hslide⟩ := exists_issues_of_misfit hvs hmisfit
    have hparse : parse data = .error (reject (wrapped data) issues) :=
      parse_eq_error_iff.2 ⟨issues, hcheck, rfl⟩
    refine ⟨i, mismatch (wrapped data) issues, hi, ?_, ?_⟩
    · rw [hparse, reject_of_isPrintable (hprint ⟨_, hparse⟩)]
    · rw [report?_mismatch, hslide]
  otherwise r hr hfits := by
    obtain ⟨issues, hcheck, rfl⟩ := parse_eq_error_iff.1 hr
    refine ⟨mismatch (wrapped data) issues, reject_of_isPrintable (hprint ⟨_, hr⟩) issues, ?_⟩
    rw [report?_mismatch, slideIndex_head?_of_fits hcheck hfits]

/-- Whatever is rejected with a report that blames the right slide is quoted in it. -/
theorem BlamesFirstMisfit.isPrintable {data : Json} (h : BlamesFirstMisfit data) {r : Rejection}
    (hr : parse data = .error r) : (wrapped data).IsPrintable 985 := by
  by_cases hfits : ∀ vs, items? data = some vs → ∀ v ∈ vs, Slide.Fits v
  · obtain ⟨m, rfl, -⟩ := h.otherwise r hr hfits
    exact isPrintable_of_parse hr
  · push Not at hfits
    obtain ⟨vs, hvs, hmisfit⟩ := hfits
    obtain ⟨-, m, -, hm, -⟩ := h.misfit vs hvs hmisfit
    exact isPrintable_of_parse hm

/-- A titled slide, and more, on a topic that is no text. -/
def numberedNotes (more : List Json) : Json :=
  .obj [("slides", .arr (.obj [("title", .str "One")] :: more)), ("topic", .int 7)]

/-- A value that is no slide, as it has a title and objects, and one that is not even a record. -/
def strayNotes : List Json := [.obj [("title", .str "Two"), ("objects", .arr [])], .int 3]

end Deck

end DeckPress
