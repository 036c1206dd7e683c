import DeckPress.Proofs.ExactGeometry
import DeckPress.Proofs.ShareTexts
import DeckPress.Quantity
import Mathlib.Data.List.DropRight

/-!
# Accepted lengths

What a check of lengths lets through is in one form: a finite number, or digits with a percent sign
right behind them. In this form it is let through again unchanged, and the length that it stands for
is read from it without fail. The blanks that a share may have around it and in front of its percent
sign say nothing.
-/
namespace DeckPress

open Validation

namespace Quantity

open Number

theorem zero_lt_real {x : Float} : Scalar.zero < real x ↔ Scalar.zero < x :=
  decide_eq_true_iff

theorem zero_lt_whole {n : Int} : Scalar.zero < whole n ↔ 0 < n := by
  have hnan : (Scalar.zero : Float).isNaN = false := by decide
  have hinf : (Scalar.zero : Float).isInf = false := by decide
  have htruncated : truncated (Scalar.zero : Float) = 0 := by decide +kernel
  have hnegative : isNegative (Scalar.zero : Float) = false := by decide
  change belowInt (Scalar.zero : Float) n = true ↔ _
  rw [belowInt, hnan, hinf, htruncated, hnegative]
  simp

end Quantity

namespace Number

theorem ofInt?_eq_some_iff {n : Int} {x : Float} :
    ofInt? n = some x ↔ (Float.ofInt n).isInf = false ∧ Float.ofInt n = x := by
  simp [ofInt?]

theorem nonFinite?_of_ofInt?_eq_some {n : Int} {x : Float} (h : ofInt? n = some x) :
    Scalar.nonFinite? x = none := by
  obtain ⟨hinf, rfl⟩ := ofInt?_eq_some_iff.1 h
  simp only [Scalar.nonFinite?, isNaN_ofInt n, hinf, Bool.false_eq_true, if_false]

end Number

namespace Length

open Number Text

variable {positive : Bool} {v : Json} {l : Length Quantity}

/-- The value that an accepted length is given back as. -/
def toValue : Length Quantity → Json
  | inches (.whole n) => .int n
  | inches (.real x) => .float x
  | percent p => .str p.text

/-- The form of accepted lengths: a finite number, or digits with a percent sign behind them; of
sizes the positive ones. -/
inductive IsCanonical (positive : Bool) : Length Quantity → Prop
  | whole {n : Int} {x : Float} (double : ofInt? n = some x)
      (finite : Scalar.nonFinite? x = none) (pos : positive = true → 0 < n) :
      IsCanonical positive (inches (.whole n))
  | real {x : Float} (finite : Scalar.nonFinite? x = none)
      (pos : positive = true → Scalar.zero < x) : IsCanonical positive (inches (.real x))
  | share {p : Percent} (written : p.IsWritten)
      (pos : positive = true → (Scalar.zero : Float) < p.value) : IsCanonical positive (percent p)

def number : Length Quantity → ℚ
  | inches (.whole n) => n
  | inches (.real x) => Number.exact x
  | percent p => p.value

theorem IsCanonical.number_pos (h : l.IsCanonical true) : 0 < l.number := by
  cases h with
  | whole _ _ pos => exact Int.cast_pos.2 (pos rfl)
  | real finite pos => exact exact_pos finite (pos rfl)
  | share _ pos => exact Percent.value_pos (pos rfl)

/-! ## What is accepted -/

theorem checkPercent_eq_ok_iff {p : Percent} {l : Length Float} : checkPercent positive p = .ok l ↔
    (positive = true → (Scalar.zero : Float) < p.value) ∧ l = percent p := by
  constructor
  · intro h
    obtain rfl := checkPercent_eq_ok h
    exact ⟨checkPercent_isAdmitted h, rfl⟩
  · rintro ⟨hpos, rfl⟩
    cases positive <;> simp_all [checkPercent]

theorem checkInches_real (positive : Bool) (x : Float) :
    checkInches positive (.real x : Quantity) = (checkInches positive x).map ofFloat := by
  have hpos : decide (Scalar.zero < Quantity.real x) = decide (Scalar.zero < x) :=
    decide_eq_decide.2 Quantity.zero_lt_real
  have hfinite : Scalar.nonFinite? (Quantity.real x) = Scalar.nonFinite? x := rfl
  unfold checkInches
  rw [hfinite, hpos]
  cases Scalar.nonFinite? x with
  | some n => rfl
  | none => cases positive && !decide (Scalar.zero < x) <;> rfl

theorem checkWhole_eq_ok {n : Int} : checkWhole positive n = .ok l ↔
    (∃ x, ofInt? n = some x) ∧ (positive = true → 0 < n) ∧ l = inches (.whole n) := by
  unfold checkWhole
  cases ofInt? n with
  | none => simp
  | some x =>
    simp only [mapError_eq_ok, checkInches_eq_ok, Quantity.zero_lt_whole]
    simp [Scalar.nonFinite?]

theorem isCanonical_ofFloat {m : Length Float}
    (h : (∃ x, checkInches positive x = .ok m) ∨
      ∃ p : Percent, p.IsWritten ∧ checkPercent positive p = .ok m) :
    (ofFloat m).IsCanonical positive := by
  rcases h with ⟨x, hx⟩ | ⟨p, hp, hshare⟩
  · obtain ⟨hfinite, hpos, rfl⟩ := checkInches_eq_ok.1 hx
    exact .real hfinite hpos
  · obtain ⟨hpos, rfl⟩ := checkPercent_eq_ok_iff.1 hshare
    exact .share hp hpos

theorem checkValue_float_eq_ok {x : Float} : checkValue positive (.float x) = .ok l ↔
    ∃ m, checkInches positive x = .ok m ∧ ofFloat m = l := by
  rw [checkValue, checkInches_real, mapError_eq_ok, map_eq_ok]

theorem checkValue_str_eq_ok {s : String} : checkValue positive (.str s) = .ok l ↔
    ∃ m, checkText positive s = .ok m ∧ ofFloat m = l := by
  rw [checkValue, mapError_eq_ok, map_eq_ok]

theorem checkWhole_isCanonical {n : Int} (h : checkWhole positive n = .ok l) :
    l.IsCanonical positive := by
  obtain ⟨⟨x, hx⟩, hpos, rfl⟩ := checkWhole_eq_ok.1 h
  exact .whole hx (nonFinite?_of_ofInt?_eq_some hx) hpos

theorem checkValue_isCanonical (h : checkValue positive v = .ok l) : l.IsCanonical positive := by
  cases v with
  | float x =>
    obtain ⟨m, hm, rfl⟩ := checkValue_float_eq_ok.1 h
    exact isCanonical_ofFloat (.inl ⟨x, hm⟩)
  | str s =>
    obtain ⟨m, hm, rfl⟩ := checkValue_str_eq_ok.1 h
    exact isCanonical_ofFloat (checkText_eq_ok hm)
  | int n => exact checkWhole_isCanonical h
  | bool b => exact checkWhole_isCanonical h
  | null => cases h
  | arr items => cases h
  | obj entries => cases h

/-- The canonical form is accepted as it is. -/
theorem IsCanonical.checkValue_toValue (h : l.IsCanonical positive) :
    checkValue positive l.toValue = .ok l := by
  cases h with
  | whole double _ pos => exact checkWhole_eq_ok.2 ⟨⟨_, double⟩, pos, rfl⟩
  | real finite pos =>
    exact checkValue_float_eq_ok.2 ⟨_, checkInches_eq_ok.2 ⟨finite, pos, rfl⟩, rfl⟩
  | share written pos =>
    refine checkValue_str_eq_ok.2 ⟨percent _, ?_, rfl⟩
    rw [checkText_text written]
    exact checkPercent_eq_ok_iff.2 ⟨pos, rfl⟩

/-- Only integers and truth values are kept as whole numbers. -/
theorem eq_int_or_bool_of_checkValue {n : Int}
    (h : checkValue positive v = .ok (inches (.whole n))) : v = .int n ∨ ∃ b, v = .bool b := by
  have hreal {m : Length Float} : ofFloat m ≠ inches (.whole n) := by cases m <;> nofun
  cases v with
  | float x =>
    obtain ⟨m, -, hm⟩ := checkValue_float_eq_ok.1 h
    exact absurd hm hreal
  | str s =>
    obtain ⟨m, -, hm⟩ := checkValue_str_eq_ok.1 h
    exact absurd hm hreal
  | int k =>
    obtain ⟨-, -, hk⟩ := checkWhole_eq_ok.1 h
    cases hk
    exact .inl rfl
  | bool b => exact .inr ⟨b, rfl⟩
  | null => cases h
  | arr items => cases h
  | obj entries => cases h

/-- Blanks around a share and in front of its percent sign do not change how it is checked. -/
theorem checkValue_padded {p : Percent} (h : p.IsWritten) {before between after : String}
    (hbefore : ∀ c ∈ before.toList, isBlank c = true)
    (hbetween : ∀ c ∈ between.toList, isBlank c = true)
    (hafter : ∀ c ∈ after.toList, isBlank c = true) :
    checkValue positive (.str (p.padded before between after)) =
      checkValue positive (.str p.text) := by
  have hnumeral := readNumeral_eq_none (p.percentSign_mem_padded before between after)
  have hpadded : checkText positive (p.padded before between after) = checkPercent positive p := by
    rw [checkText, hnumeral, h.read?_padded hbefore hbetween hafter]
  rw [checkValue, checkValue, hpadded, checkText_text h]

/-! ## Reading accepted lengths -/

/-- Reads a length off the value that it is given back as; fails where no number can be read. -/
def readInches? (extent : Float) : Json → Option Float
  | .float x => some x
  | .int n => ofInt? n
  | .bool b => some (if b then 1 else 0)
  | .str s =>
    (readNumeral (s.toList.rdropWhile (· == '%'))).map fun n =>
      n.toFloat / Scalar.whole 100 * extent
  | _ => none

def toFloat : Length Quantity → Length Float
  | inches q => inches q.toFloat
  | percent p => percent p

/-- Nothing but the percent sign is dropped to get at the number of a share. -/
theorem rdropWhile_text {p : Percent} (h : p.IsWritten) :
    p.text.toList.rdropWhile (· == '%') = p.number := by
  rw [Percent.text, String.toList_ofList, Percent.chars_eq,
    List.rdropWhile_concat_pos _ _ _ (by rfl)]
  refine List.rdropWhile_eq_self_iff.2 fun hne hlast => ?_
  rw [beq_iff_eq] at hlast
  rcases h.mem_number (List.getLast_mem hne) with hdigit | hpoint
  · rw [hlast] at hdigit
    cases hdigit
  · rw [hlast] at hpoint
    cases hpoint

/-- A length in the canonical form is read without fail, as what it stands for. -/
theorem IsCanonical.readInches? (h : l.IsCanonical positive) (extent : Float) :
    readInches? extent l.toValue = some (l.toFloat.onExtent extent) := by
  cases h with
  | whole double =>
    -- An integer that is accepted has a double, and is read as this double.
    obtain ⟨-, rfl⟩ := ofInt?_eq_some_iff.1 double
    exact double
  | real => rfl
  | share written =>
    obtain ⟨n, hn, hvalue⟩ := written.toFloat_number
    rw [toValue, Length.readInches?, rdropWhile_text written, hn, Option.map_some, hvalue]
    rfl

theorem IsCanonical.position (h : l.IsCanonical positive) : l.IsCanonical false := by
  cases h with
  | whole double finite _ => exact .whole double finite nofun
  | real finite _ => exact .real finite nofun
  | share written _ => exact .share written nofun

theorem toValue_ofFloat (m : Length Float) : (ofFloat m).toValue = m.toJson := by
  cases m <;> rfl

theorem toFloat_ofFloat (m : Length Float) : (ofFloat m).toFloat = m := by
  cases m <;> rfl

end Length

/-! ## Lengths of decks -/

/-- The lengths that decks are read with are canonical too. -/
theorem Validation.length_isCanonical {o : Origin} {positive : Bool} {v : Json} {l : Length Float}
    (h : length o positive v = .valid l) : l.ofFloat.IsCanonical positive :=
  Length.isCanonical_ofFloat (length_eq_valid h)

def Region.lengths {α : Type} (r : Region α) : List (Length α) := [r.x, r.y, r.w, r.h]

theorem Region.check_isCanonical {o : Origin} {es : Json.Entries} {r : Region Float}
    (h : Region.check o es = .valid r) : ∀ l ∈ r.lengths, l.ofFloat.IsCanonical false := by
  have hposition {f : Field} {l : Length Float}
      (hl : f.optional es (.inches 0) (length o false) = .valid l) :
      l.ofFloat.IsCanonical false := by
    obtain rfl | ⟨v, hv⟩ := Field.optional_eq_valid hl
    · exact .real (by decide) nofun
    · exact length_isCanonical hv
  have hsize {f : Field} {l : Length Float}
      (hl : f.required es (length o true) = .valid l) : l.ofFloat.IsCanonical false := by
    obtain ⟨v, hv⟩ := Field.required_eq_valid hl
    exact (length_isCanonical hv).position
  simp only [Region.check, Checked.seq_eq_valid, Checked.functor_map_eq_valid] at h
  obtain ⟨_, l₄, ⟨_, l₃, ⟨_, l₂, ⟨l₁, h₁, rfl⟩, h₂, rfl⟩, h₃, rfl⟩, h₄, rfl⟩ := h
  simp only [lengths, List.forall_mem_cons]
  exact ⟨hposition h₁, hposition h₂, hsize h₃, hsize h₄, List.forall_mem_nil _⟩

theorem SlideObject.check_region {o : Origin} {v : Json} {x : SlideObject Float}
    (h : SlideObject.check o v = .valid x) : ∃ es, Region.check o es = .valid x.region := by
  unfold SlideObject.check at h
  split at h
  · split at h
    · cases h
    · obtain ⟨r, hr, rfl⟩ := Checked.map_eq_valid.1 (Checked.within_eq_valid.1 h)
      exact ⟨_, (TextRegion.check_eq_valid hr).1⟩
    · obtain ⟨r, hr, rfl⟩ := Checked.map_eq_valid.1 (Checked.within_eq_valid.1 h)
      exact ⟨_, ImageRegion.check_eq_valid hr⟩
    · cases h
  · cases h

theorem Slide.check_regions {o : Origin} {v : Json} {s : Slide Float}
    (h : Slide.check o v = .valid s) : ∀ r ∈ s.regions, ∃ es, Region.check o es = .valid r := by
  obtain ⟨m, hm⟩ := Slide.check_eq_valid h
  cases m with
  | templated =>
    obtain ⟨_, rfl⟩ := Slide.checkModel_templated_eq_valid hm
    exact List.forall_mem_nil _
  | generic =>
    obtain ⟨objects, rfl, hobjects⟩ := Slide.checkModel_generic_eq_valid hm
    refine List.forall_mem_map.2 fun x hx => ?_
    obtain ⟨w, hw⟩ := hobjects x hx
    exact SlideObject.check_region hw

/-- Whatever data a deck is read from, its regions have been accepted one by one. -/
theorem Deck.parse_regions {data : Json} {d : Deck Float} (h : parse data = .ok d) :
    ∀ s ∈ d.slides, ∀ r ∈ s.regions, ∃ es, Region.check .data es = .valid r := by
  intro s hs
  obtain ⟨w, hw⟩ := Deck.check_eq_valid (parse_eq_ok_iff.1 h) s hs
  exact Slide.check_regions hw

namespace Length

open Text

/-- Whatever value a check of lengths accepts, it gives a finite number or digits with a percent
sign behind them, of sizes a number above zero, and it accepts this again as it is; only integers and
truth values are kept whole. Blanks around a share and in front of its percent sign make no
difference. So on any extent the lengths of a deck that has been read are themselves read without
fail, each as what it stands for. -/
theorem accepted_lengths_canonical :
    (∀ positive v l, checkValue positive v = .ok l →
      l.IsCanonical positive ∧
        (∀ n, l = inches (.whole n) → v = .int n ∨ ∃ b, v = .bool b) ∧
        (∀ p, l = percent p → ∀ c ∈ p.text.toList, isBlank c = false) ∧
        (positive = true → 0 < l.number) ∧
        checkValue positive l.toValue = .ok l) ∧
      (∀ positive (p : Percent) (before between after : String), p.IsWritten →
        (∀ c ∈ before.toList, isBlank c = true) → (∀ c ∈ between.toList, isBlank c = true) →
        (∀ c ∈ after.toList, isBlank c = true) →
        checkValue positive (.str (p.padded before between after)) =
          checkValue positive (.str p.text)) ∧
      ∀ data d, Deck.parse data = .ok d → ∀ s ∈ d.slides, ∀ r ∈ s.regions, ∀ l ∈ r.lengths,
        ∀ extent, readInches? extent l.toJson = some (l.onExtent extent) := by
  refine ⟨fun positive v l h => ?_, ?_, ?_⟩
  · have hcanonical := checkValue_isCanonical h
    refine ⟨hcanonical, ?_, ?_, ?_, hcanonical.checkValue_toValue⟩
    · rintro n rfl
      exact eq_int_or_bool_of_checkValue h
    · rintro p rfl
      cases hcanonical with
      | share written _ => exact written.isBlank_text
    · rintro rfl
      exact hcanonical.number_pos
  · intro positive p before between after hp hbefore hbetween hafter
    exact checkValue_padded hp hbefore hbetween hafter
  · intro data d hd s hs r hr l hl extent
    obtain ⟨es, hregion⟩ := Deck.parse_regions hd s hs r hr
    have hread := (Region.check_isCanonical hregion l hl).readInches? extent
    rwa [toValue_ofFloat, toFloat_ofFloat] at hread

/-- A text whose width is eighty percent, in digits of another script and with blanks. -/
def bannerData : Json :=
  .arr [.obj [("objects", .arr [.obj [("type", .str "text"), ("x", .str "1_0e-1"),
    ("w", .str "\u2003٨٠ % "), ("h", .int 2)]])]]

def banner : Deck Float where
  slides :=
    [.generic
      [.text ⟨⟨inches 1, inches 0, percent ⟨['٨', '٠'], []⟩, inches 2⟩, "", 18, false, .left⟩]]
  topic := none

theorem accepted_lengths_canonical_banner :
    checkValue true (.str "\u2003٨٠ % ") = .ok (percent ⟨['٨', '٠'], []⟩) ∧
      checkValue true (.str "٨٠%") = .ok (percent ⟨['٨', '٠'], []⟩) ∧
      Deck.parse bannerData = .ok banner ∧ readInches? 10 (.str "٨٠%") = some 8 := by
  have hpadded : checkValue true (.str "\u2003٨٠ % ") = .ok (percent ⟨['٨', '٠'], []⟩) := by
    decide +kernel
  have hdeck : Deck.parse bannerData = .ok banner := by decide +kernel
  have hwritten : Percent.IsWritten ⟨['٨', '٠'], []⟩ :=
    ⟨by decide, List.all_eq_true.1 (by decide), List.forall_mem_nil _⟩
  have hblank {s : String} (hs : s.toList.all isBlank = true) : ∀ c ∈ s.toList, isBlank c = true :=
    List.all_eq_true.1 hs
  obtain ⟨hvalues, hblanks, hdecks⟩ := accepted_lengths_canonical
  obtain ⟨-, -, -, -, hagain⟩ := hvalues true _ _ hpadded
  have hread := hdecks bannerData banner hdeck _ List.mem_cons_self _ List.mem_cons_self
    (percent ⟨['٨', '٠'], []⟩) (by simp [SlideObject.region, Region.lengths]) 10
  have htrimmed := hblanks true _ "\u2003" " " " " hwritten (hblank (by decide))
    (hblank (by decide)) (hblank (by decide))
  exact ⟨htrimmed.trans hagain, hagain, hdeck, hread.trans (by decide +kernel)⟩

end Length

end DeckPress
