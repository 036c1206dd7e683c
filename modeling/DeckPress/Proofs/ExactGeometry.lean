import DeckPress.Proofs.AcceptedDecks
import DeckPress.Proofs.Doubles
import Mathlib.Algebra.Order.Field.Basic
import Mathlib.Algebra.Order.Ring.Rat
import Mathlib.Tactic.Linarith
import Mathlib.Tactic.Positivity

/-!
# Exact geometry

The rationals are scalars as well. Over them the arithmetic of slides does not round, and every
decimal is the number that it spells. A deck is read exactly where each of its doubles is taken for
the rational that it is: regions that validation has accepted are admitted over the rationals too.
-/
namespace DeckPress

/-- Decimals are what they spell, and all rationals are finite. -/
instance : Scalar ℚ where
  decideLT a b := inferInstanceAs (Decidable (a < b))
  decimal digits places := digits / 10 ^ places
  nonFinite? _ := none

namespace Scalar

theorem decimal_eq (digits places : ℕ) : (decimal digits places : ℚ) = digits / 10 ^ places := rfl

@[simp]
theorem whole_eq (n : ℕ) : (whole n : ℚ) = n := by
  simp [whole, decimal_eq]

@[simp]
theorem zero_eq : (zero : ℚ) = 0 := by
  simp [zero]

@[simp]
theorem nonFinite?_eq_none (x : ℚ) : nonFinite? x = none := rfl

theorem least_eq_min (a b : ℚ) : least a b = min a b := by
  unfold least
  split
  · next h => exact (min_eq_right (le_of_lt h)).symm
  · next h => exact (min_eq_left (not_lt.1 h)).symm

theorem greatest_eq_max (a b : ℚ) : greatest a b = max a b := by
  unfold greatest
  split
  · next h => exact (max_eq_right (le_of_lt h)).symm
  · next h => exact (max_eq_left (not_lt.1 h)).symm

end Scalar

namespace Number

open Float.Model Float.Model.UnpackedFloat

/-- The rational that a double is; zero stands for what is not finite. -/
def exact (x : Float) : ℚ :=
  match parts x with
  | .finite s m e _ => s.apply m * 2 ^ e
  | _ => 0

theorem exact_pos {x : Float} (hfinite : Scalar.nonFinite? x = none) (hpos : Scalar.zero < x) :
    0 < exact x := by
  have hlt : (UnpackedFloat.zero .positive).lt (parts x) := parts_zero ▸ lt_iff.1 hpos
  obtain ⟨s, hx⟩ | ⟨m, e, hm, hx⟩ | hx := isNonneg_iff.1 (isNonneg_of_zero_lt hlt)
  · rw [hx] at hlt
    cases hlt
  · have hm' : (0 : ℚ) < m := by exact_mod_cast hm
    rw [exact, hx]
    change (0 : ℚ) < ((m : ℤ) : ℚ) * 2 ^ e
    rw [Int.cast_natCast]
    positivity
  · have hinf : x.isInf = true := by
      change (parts x).isInf = true
      rw [hx]
      rfl
    have hnan : x.isNaN = false := by
      change (parts x).isNaN = false
      rw [hx]
      rfl
    change (if x.isNaN then _ else if x.isInf then _ else none) = none at hfinite
    rw [hnan, if_neg Bool.false_ne_true, if_pos hinf] at hfinite
    cases hfinite

end Number

/-- A share above zero has a digit above zero. -/
theorem Percent.value_pos {p : Percent} (h : (Scalar.zero : Float) < p.value) :
    (0 : ℚ) < p.value := by
  have hdigits : Text.digitsValue (p.whole ++ p.fraction) ≠ 0 := by
    intro hzero
    rw [value, hzero] at h
    change Scalar.zero < Number.Numeral.magnitude 0 (-p.fraction.length) at h
    rw [Number.Numeral.magnitude, if_pos rfl] at h
    exact absurd h (by decide)
  have hpos : (0 : ℚ) < Text.digitsValue (p.whole ++ p.fraction) := by
    exact_mod_cast Nat.pos_of_ne_zero hdigits
  rw [value, Scalar.decimal_eq]
  positivity

def Length.exact : Length Float → Length ℚ
  | inches x => inches (Number.exact x)
  | percent p => percent p

theorem Length.exact_isAdmitted {positive : Bool} {l : Length Float} (h : l.IsAdmitted positive) :
    l.exact.IsAdmitted positive := by
  cases l with
  | inches x => exact ⟨rfl, fun hp => Scalar.zero_eq ▸ Number.exact_pos h.1 (h.2 hp)⟩
  | percent p => exact fun hp => Scalar.zero_eq ▸ Percent.value_pos (h hp)

def Region.exact (r : Region Float) : Region ℚ := ⟨r.x.exact, r.y.exact, r.w.exact, r.h.exact⟩

theorem Region.exact_isAdmitted {r : Region Float} (h : r.IsAdmitted) : r.exact.IsAdmitted where
  x := Length.exact_isAdmitted h.x
  y := Length.exact_isAdmitted h.y
  w := Length.exact_isAdmitted h.w
  h := Length.exact_isAdmitted h.h

namespace SlideObject

def region {α : Type} : SlideObject α → Region α
  | text r => r.region
  | image r => r.region

def exact : SlideObject Float → SlideObject ℚ
  | text r => text ⟨r.region.exact, r.text, r.fontSize, r.bold, r.align⟩
  | image r => image ⟨r.region.exact, r.urlOrQuery⟩

theorem region_exact (x : SlideObject Float) : x.exact.region = x.region.exact := by
  cases x <;> rfl

theorem IsAdmitted.region {x : SlideObject Float} (h : x.IsAdmitted) : x.region.IsAdmitted := by
  cases x with
  | text r => exact h.1
  | image r => exact h

end SlideObject

namespace Slide

/-- The regions that the slide asks for; a layout places its texts itself. -/
def regions {α : Type} : Slide α → List (Region α)
  | generic objects => objects.map SlideObject.region
  | templated _ => []

def exact : Slide Float → Slide ℚ
  | generic objects => generic (objects.map SlideObject.exact)
  | templated s => templated s

theorem regions_exact (s : Slide Float) : s.exact.regions = s.regions.map Region.exact := by
  cases s with
  | generic objects => simp [exact, regions, SlideObject.region_exact]
  | templated s => rfl

theorem IsAdmitted.regions {s : Slide Float} (h : s.IsAdmitted) :
    ∀ r ∈ s.regions, r.IsAdmitted := by
  cases s with
  | generic objects => exact List.forall_mem_map.2 fun x hx => (h x hx).region
  | templated s => exact List.forall_mem_nil _

end Slide

/-- The deck with each double taken for the rational that it is. -/
def Deck.exact (d : Deck Float) : Deck ℚ := ⟨d.slides.map Slide.exact, d.topic⟩

/-- All regions on the slides are admitted. -/
def Deck.HasAdmittedRegions {α : Type} [Scalar α] (d : Deck α) : Prop :=
  ∀ s ∈ d.slides, ∀ r ∈ s.regions, r.IsAdmitted

/-- Whatever data a deck is read from, its regions are admitted over the rationals too. -/
theorem Deck.exact_hasAdmittedRegions {data : Json} {d : Deck Float} (h : parse data = .ok d) :
    d.exact.HasAdmittedRegions := by
  have hslides : ∀ s ∈ d.slides, ∀ r ∈ s.exact.regions, r.IsAdmitted := by
    intro s hs
    have hregions := (parse_isAdmitted h s hs).regions
    rw [Slide.regions_exact]
    exact List.forall_mem_map.2 fun r hr => Region.exact_isAdmitted (hregions r hr)
  exact List.forall_mem_map.2 hslides

end DeckPress
