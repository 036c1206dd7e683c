import DeckPress.Deck.Reader
import DeckPress.Proofs.LayoutRegions
import DeckPress.Proofs.Obstacles

/-!
# Decks that are accepted

A check that accepts has accepted all its parts, whichever defaults stand in for what was not given.
So whatever data a deck is read from, the objects on its slides have finite positions, sizes above
zero, and font sizes above zero.
-/
namespace DeckPress

open Validation

namespace Checked

variable {α β : Type}

theorem map_eq_valid {f : α → β} {x : Checked α} {b : β} :
    x.map f = .valid b ↔ ∃ a, x = .valid a ∧ f a = b := by
  cases x <;> simp [map]

theorem functor_map_eq_valid {f : α → β} {x : Checked α} {b : β} :
    f <$> x = .valid b ↔ ∃ a, x = .valid a ∧ f a = b :=
  map_eq_valid

theorem seq_eq_valid {f : Checked (α → β)} {x : Checked α} {b : β} :
    f <*> x = .valid b ↔ ∃ g a, f = .valid g ∧ x = .valid a ∧ g a = b := by
  change f.seq (fun _ => x) = _ ↔ _
  cases f with
  | valid g => simp [seq, map_eq_valid]
  | invalid issues => cases x <;> simp [seq]

theorem within_eq_valid {s : Step} {x : Checked α} {a : α} :
    x.within s = .valid a ↔ x = .valid a := by
  cases x <;> simp [within]

theorem andThen_eq_valid {x : Checked α} {f : α → Checked β} {b : β} :
    x.andThen f = .valid b ↔ ∃ a, x = .valid a ∧ f a = .valid b := by
  cases x <;> simp [andThen]

theorem eachFrom_eq_valid {check : Json → Checked α} {n : Nat} {vs : List Json} {as : List α} :
    eachFrom check n vs = .valid as ↔ List.Forall₂ (fun v a => check v = .valid a) vs as := by
  induction vs generalizing n as with
  | nil => simp [eachFrom, eq_comm]
  | cons v vs ih =>
    simp only [eachFrom, seq_eq_valid, functor_map_eq_valid, within_eq_valid, ih,
      List.forall₂_cons_left_iff]
    constructor
    · rintro ⟨_, bs, ⟨b, hb, rfl⟩, hbs, rfl⟩
      exact ⟨b, bs, hb, hbs, rfl⟩
    · rintro ⟨b, bs, hb, hbs, rfl⟩
      exact ⟨_, bs, ⟨b, hb, rfl⟩, hbs, rfl⟩

end Checked

namespace Validation

open Checked

variable {α : Type}

theorem Field.required_eq_valid_iff {f : Field} {es : Json.Entries} {check : Json → Checked α}
    {a : α} : f.required es check = .valid a ↔
      ∃ name v, f.find? es = some (name, v) ∧ check v = .valid a := by
  unfold Field.required
  cases f.find? es with
  | none => simp [within_eq_valid, fail]
  | some given => simp [within_eq_valid, Prod.ext_iff]

theorem Field.optional_eq_valid_iff {f : Field} {es : Json.Entries} {default a : α}
    {check : Json → Checked α} : f.optional es default check = .valid a ↔
      (f.find? es = none ∧ a = default) ∨
        ∃ name v, f.find? es = some (name, v) ∧ check v = .valid a := by
  unfold Field.optional
  cases f.find? es with
  | none => simp [eq_comm]
  | some given => simp [within_eq_valid, Prod.ext_iff]

theorem Field.required_eq_valid {f : Field} {es : Json.Entries} {check : Json → Checked α} {a : α}
    (h : f.required es check = .valid a) : ∃ v, check v = .valid a := by
  obtain ⟨_, v, -, hv⟩ := Field.required_eq_valid_iff.1 h
  exact ⟨v, hv⟩

theorem Field.optional_eq_valid {f : Field} {es : Json.Entries} {default a : α}
    {check : Json → Checked α} (h : f.optional es default check = .valid a) :
    a = default ∨ ∃ v, check v = .valid a := by
  obtain ⟨-, hdefault⟩ | ⟨_, v, -, hv⟩ := Field.optional_eq_valid_iff.1 h
  · exact .inl hdefault
  · exact .inr ⟨v, hv⟩

theorem record_eq_valid {o : Origin} {name : String} {check : Json.Entries → Checked α} {v : Json}
    {a : α} (h : record o name check v = .valid a) : ∃ es, check es = .valid a := by
  cases v with
  | obj es => exact ⟨es, h⟩
  | _ => cases h

theorem list_eq_valid_iff {o : Origin} {check : Json → Checked α} {v : Json} {as : List α} :
    list o check v = .valid as ↔
      ∃ vs, v = .arr vs ∧ List.Forall₂ (fun w a => check w = .valid a) vs as := by
  cases v with
  | arr vs => simp [list, each, eachFrom_eq_valid]
  | _ => simp [list, fail]

theorem mem_of_list_eq_valid {o : Origin} {check : Json → Checked α} {v : Json} {as : List α}
    (h : list o check v = .valid as) : ∀ a ∈ as, ∃ w, check w = .valid a := by
  intro a ha
  obtain ⟨vs, -, hvs⟩ := list_eq_valid_iff.1 h
  obtain ⟨w, -, hw⟩ := exists_of_forall₂_right hvs ha
  exact ⟨w, hw⟩

theorem positiveInteger_eq_valid {v : Json} {n : Int} (h : positiveInteger v = .valid n) :
    0 < n := by
  obtain ⟨m, -, hm⟩ := andThen_eq_valid.1 h
  split at hm
  · next hpos =>
    cases hm
    exact hpos
  · cases hm

end Validation

namespace Length

variable {α : Type} [Scalar α]

/-- A length that a region may have: finite, and of a size above zero. -/
def IsAdmitted (positive : Bool) : Length α → Prop
  | inches x => Scalar.nonFinite? x = none ∧ (positive = true → Scalar.zero < x)
  | percent p => positive = true → (Scalar.zero : α) < p.value

theorem checkInches_isAdmitted {positive : Bool} {x : α} {l : Length α}
    (h : checkInches positive x = .ok l) : l.IsAdmitted positive := by
  obtain ⟨hx, hpos, rfl⟩ := checkInches_eq_ok.1 h
  exact ⟨hx, hpos⟩

theorem checkPercent_isAdmitted {positive : Bool} {p : Percent} {l : Length α}
    (h : checkPercent positive p = .ok l) : l.IsAdmitted positive := by
  unfold checkPercent at h
  split at h
  · cases h
  · next hp =>
    cases h
    intro hpos
    simpa [hpos] using hp

theorem checkText_isAdmitted {positive : Bool} {s : String} {l : Length Float}
    (h : checkText positive s = .ok l) : l.IsAdmitted positive := by
  unfold checkText at h
  split at h
  · exact checkInches_isAdmitted h
  · split at h
    · exact checkPercent_isAdmitted h
    · cases h

end Length

theorem Validation.ofLength_eq_valid {β : Type} {x : Except Length.Fault β} {l : β} :
    ofLength x = .valid l ↔ x = .ok l := by
  cases x <;> simp [ofLength, Checked.fail]

theorem Validation.length_isAdmitted {o : Origin} {positive : Bool} {v : Json} {l : Length Float}
    (h : length o positive v = .valid l) : l.IsAdmitted positive := by
  unfold length at h
  split at h
  · exact Length.checkInches_isAdmitted (ofLength_eq_valid.1 h)
  · exact Length.checkInches_isAdmitted (ofLength_eq_valid.1 h)
  · exact Length.checkText_isAdmitted (ofLength_eq_valid.1 h)
  · split at h
    · exact Length.checkInches_isAdmitted (ofLength_eq_valid.1 h)
    · exact Length.checkInches_isAdmitted (ofLength_eq_valid.1 h)
    · cases h
  · cases h

/-- Finite positions and sizes above zero. -/
structure Region.IsAdmitted {α : Type} [Scalar α] (r : Region α) : Prop where
  x : r.x.IsAdmitted false
  y : r.y.IsAdmitted false
  w : r.w.IsAdmitted true
  h : r.h.IsAdmitted true

/-- A region that is accepted is admitted: positions are zero unless they are given. -/
theorem Region.check_isAdmitted {o : Origin} {es : Json.Entries} {r : Region Float}
    (h : Region.check o es = .valid r) : r.IsAdmitted := by
  have hposition {f : Field} {l : Length Float}
      (hl : f.optional es (.inches 0) (length o false) = .valid l) : l.IsAdmitted false := by
    obtain rfl | ⟨v, hv⟩ := Field.optional_eq_valid hl
    · exact ⟨by decide, nofun⟩
    · exact length_isAdmitted hv
  have hsize {f : Field} {l : Length Float}
      (hl : f.required es (length o true) = .valid l) : l.IsAdmitted true := by
    obtain ⟨v, hv⟩ := Field.required_eq_valid hl
    exact length_isAdmitted hv
  simp only [Region.check, Checked.seq_eq_valid, Checked.functor_map_eq_valid] at h
  obtain ⟨_, l₄, ⟨_, l₃, ⟨_, l₂, ⟨l₁, h₁, rfl⟩, h₂, rfl⟩, h₃, rfl⟩, h₄, rfl⟩ := h
  exact ⟨hposition h₁, hposition h₂, hsize h₃, hsize h₄⟩

def SlideObject.IsAdmitted : SlideObject Float → Prop
  | .text r => r.region.IsAdmitted ∧ 0 < r.fontSize
  | .image r => r.region.IsAdmitted

theorem TextRegion.check_eq_valid {o : Origin} {es : Json.Entries} {r : TextRegion Float}
    (h : TextRegion.check o es = .valid r) :
    Region.check o es = .valid r.region ∧ 0 < r.fontSize := by
  simp only [TextRegion.check, Checked.seq_eq_valid, Checked.functor_map_eq_valid] at h
  obtain ⟨_, _, ⟨_, _, ⟨_, _, ⟨_, size, ⟨_, _, ⟨_, _, ⟨region, hr, rfl⟩, -, rfl⟩, -, rfl⟩, hsize,
    rfl⟩, -, rfl⟩, -, rfl⟩, -, rfl⟩ := h
  refine ⟨hr, ?_⟩
  obtain rfl | ⟨v, hv⟩ := Field.optional_eq_valid hsize
  · exact (by decide : 0 < TextRegion.defaultFontSize)
  · exact positiveInteger_eq_valid hv

theorem ImageRegion.check_eq_valid {o : Origin} {es : Json.Entries} {r : ImageRegion Float}
    (h : ImageRegion.check o es = .valid r) : Region.check o es = .valid r.region := by
  simp only [ImageRegion.check, Checked.seq_eq_valid, Checked.functor_map_eq_valid] at h
  obtain ⟨_, _, ⟨_, _, ⟨_, _, ⟨region, hr, rfl⟩, -, rfl⟩, -, rfl⟩, -, rfl⟩ := h
  exact hr

theorem SlideObject.check_isAdmitted {o : Origin} {v : Json} {x : SlideObject Float}
    (h : SlideObject.check o v = .valid x) : x.IsAdmitted := by
  unfold SlideObject.check at h
  split at h
  · split at h
    · cases h
    · obtain ⟨r, hr, rfl⟩ := Checked.map_eq_valid.1 (Checked.within_eq_valid.1 h)
      obtain ⟨hregion, hsize⟩ := TextRegion.check_eq_valid hr
      exact ⟨Region.check_isAdmitted hregion, hsize⟩
    · obtain ⟨r, hr, rfl⟩ := Checked.map_eq_valid.1 (Checked.within_eq_valid.1 h)
      exact Region.check_isAdmitted (ImageRegion.check_eq_valid hr)
    · cases h
  · cases h

def Slide.IsAdmitted : Slide Float → Prop
  | .generic objects => ∀ x ∈ objects, x.IsAdmitted
  | .templated _ => True

theorem Slide.checkModel_generic_eq_valid {o : Origin} {v : Json} {s : Slide Float}
    (h : Slide.checkModel o .generic v = .valid s) :
    ∃ objects, s = .generic objects ∧ ∀ x ∈ objects, ∃ w, SlideObject.check o w = .valid x := by
  obtain ⟨objects, hobjects, rfl⟩ := Checked.map_eq_valid.1 h
  obtain ⟨es, hes⟩ := record_eq_valid hobjects
  simp only [Slide.checkGeneric, Checked.seq_eq_valid, Checked.functor_map_eq_valid] at hes
  obtain ⟨_, _, ⟨objects, hlist, rfl⟩, -, rfl⟩ := hes
  obtain ⟨v, hv⟩ := Field.required_eq_valid hlist
  exact ⟨objects, rfl, mem_of_list_eq_valid hv⟩

theorem Slide.checkModel_templated_eq_valid {o : Origin} {v : Json} {s : Slide Float}
    (h : Slide.checkModel o .templated v = .valid s) : ∃ slide, s = .templated slide := by
  obtain ⟨slide, -, rfl⟩ := Checked.map_eq_valid.1 h
  exact ⟨slide, rfl⟩

theorem Slide.checkModel_isAdmitted {o : Origin} {m : SlideModel} {v : Json} {s : Slide Float}
    (h : Slide.checkModel o m v = .valid s) : s.IsAdmitted := by
  cases m with
  | templated =>
    obtain ⟨_, rfl⟩ := Slide.checkModel_templated_eq_valid h
    trivial
  | generic =>
    obtain ⟨objects, rfl, hobjects⟩ := Slide.checkModel_generic_eq_valid h
    intro x hx
    obtain ⟨w, hw⟩ := hobjects x hx
    exact SlideObject.check_isAdmitted hw

/-- A slide of either kind is accepted as a slide of one of them. -/
theorem Slide.check_eq_valid {o : Origin} {v : Json} {s : Slide Float}
    (h : Slide.check o v = .valid s) : ∃ m, Slide.checkModel o m v = .valid s := by
  unfold Slide.check at h
  split at h
  · next hs =>
    cases h
    exact ⟨.generic, hs⟩
  · next hs =>
    cases h
    exact ⟨.templated, hs⟩
  · cases h

/-- Each slide of an accepted deck comes from data that is accepted. -/
theorem Deck.check_eq_valid {o : Origin} {v : Json} {d : Deck Float}
    (h : Deck.check o v = .valid d) : ∀ s ∈ d.slides, ∃ w, Slide.check o w = .valid s := by
  obtain ⟨es, hes⟩ := record_eq_valid h
  simp only [Checked.seq_eq_valid, Checked.functor_map_eq_valid] at hes
  obtain ⟨_, topic, ⟨slides, hslides, rfl⟩, -, rfl⟩ := hes
  obtain rfl | ⟨v, hv⟩ := Field.optional_eq_valid hslides
  · intro s hs
    cases hs
  · exact mem_of_list_eq_valid hv

theorem Deck.parse_eq_ok_iff {data : Json} {d : Deck Float} :
    Deck.parse data = .ok d ↔ Deck.check .data (Deck.wrapped data) = .valid d := by
  unfold Deck.parse
  cases Deck.check .data (Deck.wrapped data) <;> simp

theorem Deck.parse_eq_error_iff {data : Json} {r : Deck.Rejection} :
    Deck.parse data = .error r ↔
      ∃ issues, Deck.check .data (Deck.wrapped data) = .invalid issues ∧
        r = Deck.reject (Deck.wrapped data) issues := by
  unfold Deck.parse
  cases Deck.check .data (Deck.wrapped data) with
  | valid d => simp
  | invalid issues => simp [eq_comm]

theorem Deck.reject_of_isPrintable {data : Json} (h : data.IsPrintable 985)
    (issues : List Issue) : Deck.reject data issues = .mismatch (Deck.mismatch data issues) := by
  rw [Deck.reject, Json.obstacle?_eq_none_iff.2 h]

theorem Deck.reject_of_obstacle {data : Json} {o : Json.Obstacle} (h : data.obstacle? = some o)
    (issues : List Issue) : Deck.reject data issues = .unquotable o := by
  rw [Deck.reject, h]

/-- A rejection tells what is wrong with data that can be quoted, or else what is in the way. -/
theorem Deck.rejection_cases {data : Json} {r : Deck.Rejection}
    (h : Deck.parse data = .error r) :
    (∃ m, r = .mismatch m ∧ (Deck.wrapped data).IsPrintable 985) ∨
      ∃ o, r = .unquotable o ∧ (Deck.wrapped data).obstacle? = some o := by
  obtain ⟨issues, -, rfl⟩ := Deck.parse_eq_error_iff.1 h
  cases ho : (Deck.wrapped data).obstacle? with
  | none =>
    have hprint := Json.obstacle?_eq_none_iff.1 ho
    exact .inl ⟨_, Deck.reject_of_isPrintable hprint issues, hprint⟩
  | some o => exact .inr ⟨o, Deck.reject_of_obstacle ho issues, rfl⟩

theorem Deck.isPrintable_of_parse {data : Json} {m : Deck.Mismatch}
    (h : Deck.parse data = .error (.mismatch m)) : (Deck.wrapped data).IsPrintable 985 := by
  obtain ⟨_, -, hprint⟩ | ⟨_, ⟨⟩, -⟩ := Deck.rejection_cases h
  exact hprint

/-- Data that is rejected is not quoted if and only if there is an obstacle in it. -/
theorem Deck.parse_eq_unquotable_iff {data : Json} {o : Json.Obstacle} :
    Deck.parse data = .error (.unquotable o) ↔
      (∃ r, Deck.parse data = .error r) ∧ (Deck.wrapped data).obstacle? = some o := by
  constructor
  · intro h
    obtain ⟨_, ⟨⟩, -⟩ | ⟨_, ⟨⟩, ho⟩ := Deck.rejection_cases h
    exact ⟨⟨_, h⟩, ho⟩
  · rintro ⟨⟨r, hr⟩, ho⟩
    obtain ⟨issues, hcheck, -⟩ := Deck.parse_eq_error_iff.1 hr
    exact Deck.parse_eq_error_iff.2 ⟨issues, hcheck, (Deck.reject_of_obstacle ho issues).symm⟩

theorem Deck.obstacle?_wrapped_nested {n : Nat} (h : 984 ≤ n) :
    (Deck.wrapped (Json.nested n)).obstacle? = some .tooDeep := by
  have hwrapped : Deck.wrapped (Json.nested n) = .obj [("slides", Json.nested n)] := by
    cases n <;> rfl
  have hslides : (Json.nested n).obstacleWithin? 984 = some .tooDeep := by
    rw [Json.obstacleWithin?_nested, if_pos h]
  rw [hwrapped]
  change (Json.obstacleWithin? 984 (Json.nested n)).or none = _
  rw [hslides]
  rfl

/-- A list is no slide, so lists within each other are no deck, and so many cannot be quoted. -/
theorem Deck.parse_nested {n : Nat} (h : 984 ≤ n) :
    Deck.parse (Json.nested n) = .error (.unquotable .tooDeep) := by
  obtain ⟨m, rfl⟩ : ∃ m, n = m + 2 := ⟨n - 2, by omega⟩
  refine Deck.parse_eq_unquotable_iff.2 ⟨?_, Deck.obstacle?_wrapped_nested h⟩
  exact ⟨_, Deck.parse_eq_error_iff.2 ⟨_, rfl, rfl⟩⟩

/-- The slides of a deck are admitted, whatever data it is read from. -/
theorem Deck.parse_isAdmitted {data : Json} {d : Deck Float} (h : Deck.parse data = .ok d) :
    ∀ s ∈ d.slides, s.IsAdmitted := by
  intro s hs
  obtain ⟨w, hw⟩ := Deck.check_eq_valid (Deck.parse_eq_ok_iff.1 h) s hs
  obtain ⟨m, hm⟩ := Slide.check_eq_valid hw
  exact Slide.checkModel_isAdmitted hm

end DeckPress
