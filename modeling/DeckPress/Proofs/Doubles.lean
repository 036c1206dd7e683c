import DeckPress.Scalar
import Mathlib

/-!
# How large doubles become

A double is told by its sign, its mantissa and its exponent. How far a product or a difference can
raise the exponent follows from the exponents of its parts, whatever the rounding does; so it is
known without any calculation that some results are finite. That a result is not below zero follows
from signs alone.
-/
namespace DeckPress.Number

open Float.Model hiding unpack pack add sub mul div ofInt ofNat ofScientific
open Float.Model.UnpackedFloat

/-- A number with an exponent of at most so much, its mantissa of any size. -/
def IsBounded (k : Int) : UnpackedFloat → Prop
  | .zero _ => True
  | .finite _ _ e _ => e ≤ k
  | _ => False

/-- A number as doubles hold it, with an exponent of at most so much. -/
def IsSmall (k : Int) : UnpackedFloat → Prop
  | .zero _ => True
  | .finite _ m e _ => m < 2 ^ 53 ∧ e ≤ k
  | _ => False

instance (k : Int) : DecidablePred (IsSmall k)
  | .zero _ => isTrue trivial
  | .finite _ m e _ => inferInstanceAs (Decidable (m < 2 ^ 53 ∧ e ≤ k))
  | .infinity _ => isFalse id
  | .notANumber => isFalse id

theorem isSmall_iff {k : Int} {u : UnpackedFloat} :
    IsSmall k u ↔ (∃ s, u = .zero s) ∨
      ∃ s m e hm, u = .finite s m e hm ∧ m < 2 ^ 53 ∧ e ≤ k := by
  cases u with
  | zero s => exact iff_of_true trivial (.inl ⟨s, rfl⟩)
  | finite s m e hm =>
    constructor
    · exact fun h => .inr ⟨s, m, e, hm, rfl, h⟩
    · rintro (⟨_, h⟩ | ⟨_, _, _, _, h, hsmall⟩)
      · cases h
      · cases h
        exact hsmall
  | _ => simp [IsSmall]

/-- A double is no larger than its bits for the exponent say, unless all of them are set. -/
theorem isSmall_unpack {k : Int} {b : BitVec Float.Model.Format.binary64.numBits}
    (h : unpackExponent b ≠ -1#11) (hk : -1074 ≤ k)
    (he : ((unpackExponent b).toNat : Int) ≤ k + 1075) : IsSmall k (unpack .binary64 b) := by
  unfold unpack
  simp only [h, if_false]
  split
  · split
    · trivial
    · next hz hm =>
      refine ⟨?_, ?_⟩
      · omega
      · rw [hz]
        exact hk
  · refine ⟨?_, ?_⟩
    · exact BitVec.isLt _
    · change ((unpackExponent b).toNat : Int) - (1023 + 52) ≤ k
      omega

theorem mantissa_unpack_lt {b : BitVec Float.Model.Format.binary64.numBits} {s : Sign} {m : Nat}
    {e : Int} {hm : 0 < m} (h : unpack .binary64 b = .finite s m e hm) : m < 2 ^ 53 := by
  unfold unpack at h
  dsimp only at h
  split at h
  · split at h <;> cases h
  · split at h
    · split at h
      · cases h
      · cases h
        omega
    · cases h
      exact BitVec.isLt _

theorem isSmall_of_isBounded_unpack {k : Int} {b : BitVec Float.Model.Format.binary64.numBits}
    (h : IsBounded k (unpack .binary64 b)) : IsSmall k (unpack .binary64 b) := by
  cases hu : unpack .binary64 b with
  | finite s m e hm =>
    rw [hu] at h
    exact ⟨mantissa_unpack_lt hu, h⟩
  | zero s => trivial
  | _ =>
    rw [hu] at h
    exact h

/-- A number is packed as infinity if its exponent is too large for doubles, else with an exponent
no larger than its own. -/
theorem pack_finite (s : Sign) (m : Nat) (e : Int) (hm : 0 < m) :
    (971 < e ∧ pack .binary64 (.finite s m e hm) = packedInfinity .binary64 s) ∨
      (e ≤ 971 ∧ unpackExponent (pack .binary64 (.finite s m e hm)) ≠ -1#11 ∧
        (unpackExponent (pack .binary64 (.finite s m e hm))).toNat ≤ (e + 1075).toNat) := by
  have hbiased : e + 1023 + 52 = e + 1075 := by omega
  have hpack : pack .binary64 (.finite s m e hm) =
      if 2048 ≤ (e + 1023 + 52).toNat + 1 then packedInfinity .binary64 s
      else if m.log2 + 1 = 53 then
        packComponents .binary64 s (BitVec.ofNat 11 (e + 1023 + 52).toNat) (BitVec.ofNat 52 m)
      else packComponents .binary64 s 0#11 (BitVec.ofNat 52 m) := rfl
  rw [hpack, hbiased]
  split
  · exact .inl ⟨by omega, rfl⟩
  · have hmod : (BitVec.ofNat 11 (e + 1075).toNat).toNat = (e + 1075).toNat := by
      rw [BitVec.toNat_ofNat]
      omega
    refine .inr ⟨by omega, ?_⟩
    split
    · rw [unpackExponent_packComponents, hmod]
      refine ⟨fun h => ?_, Nat.le_refl _⟩
      rw [h] at hmod
      change 2047 = _ at hmod
      omega
    · rw [unpackExponent_packComponents]
      exact ⟨by decide, Nat.zero_le _⟩

theorem isSmall_unpack_pack {k : Int} {u : UnpackedFloat} (h : IsBounded k u) (hk : -1074 ≤ k)
    (hk' : k ≤ 971) : IsSmall k (unpack .binary64 (pack .binary64 u)) := by
  cases u with
  | infinity s => exact h.elim
  | notANumber => exact h.elim
  | zero s => cases s <;> trivial
  | finite s m e hm =>
    have he : e ≤ k := h
    obtain ⟨hlarge, -⟩ | ⟨-, hne, hle⟩ := pack_finite s m e hm
    · omega
    · exact isSmall_unpack hne hk (by omega)

theorem mantissa_shiftRight (em : ExtendedMantissa) (n : Nat) :
    (em >>> n).mantissa = em.mantissa / 2 ^ n := by
  change (n.repeat ExtendedMantissa.shiftRightOne em).mantissa = _
  induction n with
  | zero => rw [Nat.repeat, Nat.pow_zero, Nat.div_one]
  | succ n ih =>
    change (n.repeat ExtendedMantissa.shiftRightOne em).mantissa / 2 = _
    rw [ih, Nat.div_div_eq_div_mul, Nat.pow_succ]

theorem log2_lt_of_lt {m n : Nat} (hn : 0 < n) (h : m < 2 ^ n) : m.log2 < n := by
  rcases Nat.eq_zero_or_pos m with rfl | hm
  · exact hn
  · exact (Nat.log2_lt (Nat.ne_of_gt hm)).2 h

theorem roundedMantissa_le (em : ExtendedMantissa) : em.roundedMantissa ≤ em.mantissa + 1 := by
  unfold ExtendedMantissa.roundedMantissa Accuracy.roundToNearestEven
  split <;> omega

theorem mantissa_ofMantissaAndAccuracy (m : Nat) (a : Accuracy) :
    (ExtendedMantissa.ofMantissaAndAccuracy m a).mantissa = m := by
  unfold ExtendedMantissa.ofMantissaAndAccuracy
  split <;> rfl

/-- After the shift the exponent is the least one at which the mantissa fits, or the given one. -/
theorem shiftToTargetExponent_snd (m : Nat) (e : Int) (a : Accuracy) :
    (shiftToTargetExponent .binary64 m e a).2 = max e (max (totalExponent m e - 53) (-1074)) := by
  change e + ((max (totalExponent m e - 53) (-1074) - e).toNat : Int) = _
  omega

/-- After the shift the mantissa fits. -/
theorem shiftToTargetExponent_fst_lt (m : Nat) (e : Int) (a : Accuracy) :
    (shiftToTargetExponent .binary64 m e a).1.mantissa < 2 ^ 53 := by
  change (ExtendedMantissa.ofMantissaAndAccuracy m a >>>
    (max (totalExponent m e - 53) (-1074) - e).toNat).mantissa < _
  rw [mantissa_shiftRight, mantissa_ofMantissaAndAccuracy, Nat.div_lt_iff_lt_mul (Nat.two_pow_pos _),
    ← Nat.pow_add]
  refine Nat.lt_of_lt_of_le Nat.lt_log2_self (Nat.pow_le_pow_right Nat.zero_lt_two ?_)
  unfold totalExponent
  omega

/-- Rounding raises the exponent no further than is needed for 53 bits, and once more if the
mantissa was rounded up to another bit. -/
theorem isBounded_roundWithAccuracy {k : Int} (s : Sign) {m : Nat} {e : Int} (a : Accuracy)
    (he : e ≤ k) (hm : totalExponent m e ≤ k + 53) (hk : -1074 ≤ k) :
    IsBounded (k + 1) (roundWithAccuracy .binary64 s m e a) := by
  have hlt := shiftToTargetExponent_fst_lt m e a
  have hexp := shiftToTargetExponent_snd m e a
  unfold roundWithAccuracy
  rcases hshift : shiftToTargetExponent .binary64 m e a with ⟨em, e₁⟩
  rw [hshift] at hlt hexp
  dsimp only at hlt hexp ⊢
  have hround : em.roundedMantissa.log2 < 54 := by
    have := roundedMantissa_le em
    exact log2_lt_of_lt (by omega) (by omega)
  have hexp' := shiftToTargetExponent_snd em.roundedMantissa e₁ .exact
  rcases hshift' : shiftToTargetExponent .binary64 em.roundedMantissa e₁ .exact with ⟨em', e₂⟩
  rw [hshift'] at hexp'
  dsimp only at hexp' ⊢
  split
  · trivial
  · change e₂ ≤ k + 1
    unfold totalExponent at hexp'
    omega

/-- A mantissa that is written with a lower exponent is no larger a number. -/
theorem totalExponent_decreaseExponent_le (m : Nat) (e t : Int) :
    totalExponent (decreaseExponent m e t).1 (decreaseExponent m e t).2 ≤ totalExponent m e := by
  have h : (m <<< (e - t).toNat).log2 < m.log2 + 1 + (e - t).toNat := by
    refine log2_lt_of_lt (by omega) ?_
    rw [Nat.shiftLeft_eq, Nat.pow_add]
    exact Nat.mul_lt_mul_of_pos_right Nat.lt_log2_self (Nat.two_pow_pos _)
  change ((m <<< (e - t).toNat).log2 : Int) + 1 + (e - ((e - t).toNat : Int)) ≤ m.log2 + 1 + e
  omega

theorem isBounded_round {k : Int} (s : Sign) {m : Nat} {e : Int} (he : e ≤ k)
    (hm : totalExponent m e ≤ k + 53) (hk : -1074 ≤ k) :
    IsBounded (k + 1) (round .binary64 s m e) := by
  have htotal := totalExponent_decreaseExponent_le m e
    (Float.Model.Format.binary64.targetExponent (totalExponent m e))
  refine isBounded_roundWithAccuracy s _ ?_ (Int.le_trans htotal hm) hk
  omega

theorem isBounded_normalize {k : Int} {n : Int} {e : Int} (s : Sign) (he : e ≤ k)
    (hn : n.natAbs < 2 ^ (k + 53 - e).toNat) (hk : -1074 ≤ k) :
    IsBounded (k + 1) (UnpackedFloat.normalize .binary64 n e s) := by
  have htotal : totalExponent n.natAbs e ≤ k + 53 := by
    have := log2_lt_of_lt (by omega) hn
    unfold totalExponent
    omega
  unfold UnpackedFloat.normalize
  split
  · next h =>
    have hm : (-n).toNat = n.natAbs := by
      have := Int.compare_eq_lt.1 h
      omega
    rw [hm]
    exact isBounded_round _ he htotal hk
  · trivial
  · next h =>
    have hm : n.toNat = n.natAbs := by
      have := Int.compare_eq_gt.1 h
      omega
    rw [hm]
    exact isBounded_round _ he htotal hk

theorem isBounded_mul {k l : Int} {u v : UnpackedFloat} (hu : IsSmall k u) (hv : IsSmall l v)
    (h : -1074 ≤ k + l + 53) : IsBounded (k + l + 54) (mul .binary64 u v) := by
  obtain ⟨s₁, rfl⟩ | ⟨s₁, m₁, e₁, h₁, rfl, hm₁, he₁⟩ := isSmall_iff.1 hu
  · obtain ⟨s₂, rfl⟩ | ⟨s₂, m₂, e₂, h₂, rfl, -, -⟩ := isSmall_iff.1 hv <;> trivial
  · obtain ⟨s₂, rfl⟩ | ⟨s₂, m₂, e₂, h₂, rfl, hm₂, he₂⟩ := isSmall_iff.1 hv
    · trivial
    · have hm : (m₁ * m₂).log2 < 53 + 53 := by
        refine log2_lt_of_lt (Nat.zero_lt_succ _) ?_
        rw [Nat.pow_add]
        exact Nat.mul_lt_mul'' hm₁ hm₂
      have htotal : totalExponent (m₁ * m₂) (e₁ + e₂) ≤ k + l + 53 + 53 := by
        unfold totalExponent
        omega
      rw [show k + l + 54 = k + l + 53 + 1 by omega]
      exact isBounded_roundWithAccuracy _ _ (by omega) htotal h

theorem IsSmall.isBounded {k l : Int} {u : UnpackedFloat} (hu : IsSmall k u) (h : k ≤ l) :
    IsBounded l u := by
  obtain ⟨s, rfl⟩ | ⟨s, m, e, hm, rfl, -, he⟩ := isSmall_iff.1 hu
  · trivial
  · exact Int.le_trans he h

theorem natAbs_apply (s : Sign) (n : Nat) : (s.apply n).natAbs = n := by
  cases s
  · exact Int.natAbs_neg n
  · rfl

/-- A mantissa that is written with a lower exponent, with its sign. -/
theorem natAbs_apply_shiftLeft_lt {k : Int} (s : Sign) {m : Nat} {e : Int} (hm : m < 2 ^ 53)
    (he : e ≤ k) (t : Int) :
    (s.apply (m <<< (e - t).toNat : Nat)).natAbs < 2 ^ (53 + (k - t).toNat) := by
  rw [natAbs_apply, Nat.shiftLeft_eq, Nat.pow_add]
  have hpow : 2 ^ (e - t).toNat ≤ 2 ^ (k - t).toNat :=
    Nat.pow_le_pow_right Nat.zero_lt_two (by omega)
  exact Nat.mul_lt_mul_of_lt_of_le hm hpow (Nat.two_pow_pos _)

theorem isBounded_sub {k : Int} {u v : UnpackedFloat} (hu : IsSmall k u) (hv : IsSmall k v)
    (h : -1074 ≤ k) : IsBounded (k + 2) (sub .binary64 u v) := by
  obtain ⟨s₁, rfl⟩ | ⟨s₁, m₁, e₁, h₁, rfl, hm₁, he₁⟩ := isSmall_iff.1 hu
  · obtain ⟨s₂, rfl⟩ | ⟨s₂, m₂, e₂, h₂, rfl, -, he₂⟩ := isSmall_iff.1 hv
    · cases s₁ <;> cases s₂ <;> trivial
    · exact Int.le_trans he₂ (by omega)
  · obtain ⟨s₂, rfl⟩ | ⟨s₂, m₂, e₂, h₂, rfl, hm₂, he₂⟩ := isSmall_iff.1 hv
    · exact Int.le_trans he₁ (by omega)
    · have ha := natAbs_apply_shiftLeft_lt s₁ hm₁ he₁ (min e₁ e₂)
      have hb := natAbs_apply_shiftLeft_lt s₂ hm₂ he₂ (min e₁ e₂)
      have hexp : (k + 1 + 53 - min e₁ e₂).toNat = 53 + (k - min e₁ e₂).toNat + 1 := by omega
      rw [show k + 2 = k + 1 + 1 by omega]
      refine isBounded_normalize _ (by omega) ?_ (by omega)
      rw [hexp, Nat.pow_succ]
      omega

def isNonneg : UnpackedFloat → Bool
  | .zero _ => true
  | .finite .positive _ _ _ => true
  | .infinity .positive => true
  | _ => false

def isPositive : UnpackedFloat → Bool
  | .finite .positive _ _ _ => true
  | _ => false

theorem isNonneg_iff {u : UnpackedFloat} :
    isNonneg u ↔ (∃ s, u = .zero s) ∨ (∃ m e hm, u = .finite .positive m e hm) ∨
      u = .infinity .positive := by
  cases u with
  | infinity s => cases s <;> simp [isNonneg]
  | notANumber => simp [isNonneg]
  | zero s => simp [isNonneg]
  | finite s m e hm => cases s <;> simp [isNonneg, hm]

theorem isPositive_iff {u : UnpackedFloat} :
    isPositive u ↔ ∃ m e hm, u = .finite .positive m e hm := by
  cases u with
  | finite s m e hm => cases s <;> simp [isPositive, hm]
  | _ => simp [isPositive]

theorem unpackSign_pack_finite (s : Sign) (m : Nat) (e : Int) (hm : 0 < m) :
    unpackSign (pack .binary64 (.finite s m e hm)) = s.toBitVec := by
  unfold pack
  dsimp only
  split
  · exact unpackSign_packComponents ..
  · split <;> exact unpackSign_packComponents ..

theorem isNonneg_unpack {b : BitVec Float.Model.Format.binary64.numBits} (hs : unpackSign b = 0#1)
    (h : unpackExponent b ≠ -1#11) : isNonneg (unpack .binary64 b) := by
  unfold unpack
  simp only [hs, h, if_false]
  split
  · split <;> rfl
  · rfl

theorem isNonneg_unpack_pack {u : UnpackedFloat} (h : isNonneg u) :
    isNonneg (unpack .binary64 (pack .binary64 u)) := by
  obtain ⟨s, rfl⟩ | ⟨m, e, hm, rfl⟩ | rfl := isNonneg_iff.1 h
  · cases s <;> decide
  · obtain ⟨-, hp⟩ | ⟨-, hne, -⟩ := pack_finite .positive m e hm
    · rw [hp]
      decide
    · exact isNonneg_unpack (unpackSign_pack_finite ..) hne
  · decide

/-- Packing makes a number of any size a number or infinite. -/
theorem isNaN_unpack_pack {u : UnpackedFloat} (h : u.isNaN = false) :
    (unpack .binary64 (pack .binary64 u)).isNaN = false := by
  cases u with
  | infinity s => cases s <;> decide
  | notANumber => cases h
  | zero s => cases s <;> decide
  | finite s m e hm =>
    obtain ⟨-, hp⟩ | ⟨-, hne, -⟩ := pack_finite s m e hm
    · rw [hp]
      cases s <;> decide
    · unfold unpack
      simp only [hne, if_false]
      split
      · split <;> rfl
      · rfl

theorem isNonneg_roundWithAccuracy (m : Nat) (e : Int) (a : Accuracy) :
    isNonneg (roundWithAccuracy .binary64 .positive m e a) := by
  unfold roundWithAccuracy
  dsimp only
  split <;> rfl

theorem isNonneg_mul {u v : UnpackedFloat} (hu : isNonneg u) (hv : isPositive v) :
    isNonneg (mul .binary64 u v) := by
  obtain ⟨_, _, _, rfl⟩ := isPositive_iff.1 hv
  obtain ⟨s, rfl⟩ | ⟨m, e, hm, rfl⟩ | rfl := isNonneg_iff.1 hu
  · rfl
  · exact isNonneg_roundWithAccuracy ..
  · rfl

theorem isNonneg_div {u v : UnpackedFloat} (hu : isNonneg u) (hv : isPositive v) :
    isNonneg (div .binary64 u v) := by
  obtain ⟨_, _, _, rfl⟩ := isPositive_iff.1 hv
  obtain ⟨s, rfl⟩ | ⟨m, e, hm, rfl⟩ | rfl := isNonneg_iff.1 hu
  · rfl
  · exact isNonneg_roundWithAccuracy ..
  · rfl

theorem isNonneg_ofNat (n : Nat) : isNonneg (ofNat .binary64 n) := by
  unfold ofNat ofInt UnpackedFloat.normalize
  split
  · next h =>
    have := Int.compare_eq_lt.1 h
    omega
  · rfl
  · exact isNonneg_roundWithAccuracy ..

theorem isNonneg_ofScientific (m : Nat) (e : Int) : isNonneg (ofScientific .binary64 m e) := by
  unfold ofScientific
  split
  · rfl
  · split
    · rfl
    · split
      · rfl
      · split
        · exact isNonneg_mul rfl rfl
        · exact isNonneg_div rfl rfl

theorem isNonneg_of_zero_lt {u : UnpackedFloat} {s : Sign} (h : (UnpackedFloat.zero s).lt u) :
    isNonneg u := by
  cases u with
  | infinity s' => cases s' <;> first | rfl | cases h
  | notANumber => cases h
  | zero s' => rfl
  | finite s' m e hm => cases s' <;> first | rfl | cases h

theorem isNonneg_of_not_lt_zero {u : UnpackedFloat} {s : Sign} (hu : u.isNaN = false)
    (h : u.lt (.zero s) = false) : isNonneg u := by
  cases u with
  | infinity s' => cases s' <;> first | rfl | cases h
  | notANumber => cases hu
  | zero s' => rfl
  | finite s' m e hm => cases s' <;> first | rfl | cases h

/-- What is not below zero and not above a small number is small itself. -/
theorem isBounded_of_not_lt {k : Int} {u v : UnpackedFloat} (hu : isNonneg u) (hv : IsSmall k v)
    (h : v.lt u = false) : IsBounded k u := by
  obtain ⟨s', rfl⟩ | ⟨s', m', e', hm', rfl, -, he'⟩ := isSmall_iff.1 hv
  · obtain ⟨s, rfl⟩ | ⟨m, e, hm, rfl⟩ | rfl := isNonneg_iff.1 hu
    · trivial
    · cases h
    · cases h
  · obtain ⟨s, rfl⟩ | ⟨m, e, hm, rfl⟩ | rfl := isNonneg_iff.1 hu
    · trivial
    · cases s' with
      | negative => cases h
      | positive =>
        -- of two numbers above zero the one with the larger exponent is larger
        have hlt : ¬e' < e := by
          intro he
          have : compare e' e = .lt := Int.compare_eq_lt.2 he
          change (some ((compare e' e).then (compare m' m)) == some Ordering.lt) = false at h
          rw [this] at h
          cases h
        exact Int.le_trans (Int.not_lt.1 hlt) he'
    · cases s' <;> cases h

/-- The sign, mantissa and exponent of a double. -/
def parts (x : Float) : UnpackedFloat := x.toModel.unpack

/-- Finite, with an exponent of at most so much. -/
def Small (k : Int) (x : Float) : Prop := IsSmall k (parts x)

instance (k : Int) : DecidablePred (Small k) := fun _ => inferInstanceAs (Decidable (IsSmall k _))

/-- Not below zero, and a number or infinite. -/
def Nonneg (x : Float) : Prop := isNonneg (parts x)

instance : DecidablePred Nonneg := fun _ => inferInstanceAs (Decidable (isNonneg _ = true))

/-- Finite and above zero. -/
def Positive (x : Float) : Prop := isPositive (parts x)

instance : DecidablePred Positive := fun _ => inferInstanceAs (Decidable (isPositive _ = true))

theorem lt_iff {x y : Float} : x < y ↔ (parts x).lt (parts y) = true := by
  change decide (x.toModel < y.toModel) = true ↔ _
  rw [decide_eq_true_iff]
  rfl

theorem not_lt_iff {x y : Float} : ¬x < y ↔ (parts x).lt (parts y) = false := by
  rw [lt_iff, Bool.not_eq_true]

theorem parts_zero : parts Scalar.zero = .zero .positive := by rfl

theorem Small.isNaN_eq {k : Int} {x : Float} (h : Small k x) : x.isNaN = false := by
  change (parts x).isNaN = false
  obtain ⟨s, hx⟩ | ⟨s, m, e, hm, hx, -, -⟩ := isSmall_iff.1 h <;> rw [hx] <;> rfl

theorem Small.isInf_eq {k : Int} {x : Float} (h : Small k x) : x.isInf = false := by
  change (parts x).isInf = false
  obtain ⟨s, hx⟩ | ⟨s, m, e, hm, hx, -, -⟩ := isSmall_iff.1 h <;> rw [hx] <;> rfl

theorem Small.mul {k l : Int} {x y : Float} (hx : Small k x) (hy : Small l y)
    (h : -1074 ≤ k + l + 53) (h' : k + l + 54 ≤ 971) : Small (k + l + 54) (x * y) :=
  isSmall_unpack_pack (isBounded_mul hx hy h) (by omega) h'

theorem Small.sub {k : Int} {x y : Float} (hx : Small k x) (hy : Small k y) (h : -1074 ≤ k)
    (h' : k + 2 ≤ 971) : Small (k + 2) (x - y) :=
  isSmall_unpack_pack (isBounded_sub hx hy h) (by omega) h'

theorem Nonneg.mul {x y : Float} (hx : Nonneg x) (hy : Positive y) : Nonneg (x * y) :=
  isNonneg_unpack_pack (isNonneg_mul hx hy)

theorem Nonneg.div {x y : Float} (hx : Nonneg x) (hy : Positive y) : Nonneg (x / y) :=
  isNonneg_unpack_pack (isNonneg_div hx hy)

theorem Small.mono {k l : Int} {x : Float} (h : Small k x) (hkl : k ≤ l) : Small l x :=
  isSmall_of_isBounded_unpack (IsSmall.isBounded h hkl)

theorem Nonneg.isNaN_eq {x : Float} (h : Nonneg x) : x.isNaN = false := by
  change (parts x).isNaN = false
  unfold Nonneg at h
  obtain ⟨s, hx⟩ | ⟨m, e, hm, hx⟩ | hx := isNonneg_iff.1 h <;> rw [hx] <;> rfl

/-- The smaller of a number that is not below zero and of a small one is small. -/
theorem Small.least {k : Int} {x y : Float} (hy : Small k y) (hx : Nonneg x) :
    Small k (Scalar.least x y) := by
  unfold Scalar.least
  split
  · exact hy
  · next h =>
    exact isSmall_of_isBounded_unpack (isBounded_of_not_lt hx hy (not_lt_iff.1 h))

theorem nonneg_of_pos {x : Float} (h : Scalar.zero < x) : Nonneg x :=
  isNonneg_of_zero_lt (parts_zero ▸ lt_iff.1 h)

theorem nonneg_greatest_zero {x : Float} (h : x.isNaN = false) :
    Nonneg (Scalar.greatest x Scalar.zero) := by
  unfold Scalar.greatest
  split
  · decide
  · next hlt => exact isNonneg_of_not_lt_zero h (parts_zero ▸ not_lt_iff.1 hlt)

theorem positive_powersOfTen : ∀ x ∈ Float.exactlyRepresentablePowersOfTen, Positive x := by
  decide

theorem nonneg_ofScientific (m : Nat) (s : Bool) (e : Nat) :
    Nonneg (Float.ofScientific m s e) := by
  unfold Float.ofScientific
  have hm : Nonneg m.toUInt64.toFloat := isNonneg_unpack_pack (isNonneg_ofNat _)
  split
  · next h =>
    have he : e < Float.exactlyRepresentablePowersOfTen.size := Nat.lt_succ_of_le h.2
    have hp := positive_powersOfTen _ (Array.getElem_mem he)
    split
    · exact hm.div hp
    · exact hm.mul hp
  · exact isNonneg_unpack_pack (isNonneg_ofScientific ..)

theorem nonneg_magnitude (digits : Nat) (exponent : Int) :
    Nonneg (Numeral.magnitude digits exponent) := by
  unfold Numeral.magnitude
  repeat' split
  · decide
  · decide
  · decide
  · exact nonneg_ofScientific ..
  · exact nonneg_ofScientific ..

/-- The double next to an integer is a number or infinite. -/
theorem isNaN_ofInt (n : Int) : (Float.ofInt n).isNaN = false := by
  have hnat (m : Nat) : (Float.ofNat m).isNaN = false := (nonneg_ofScientific m false 0).isNaN_eq
  cases n with
  | ofNat m => exact hnat m
  | negSucc m =>
    have hneg (u : UnpackedFloat) : u.neg.isNaN = u.isNaN := by cases u <;> rfl
    exact isNaN_unpack_pack ((hneg _).trans (hnat (m + 1)))

end DeckPress.Number
