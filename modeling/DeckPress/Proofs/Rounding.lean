import DeckPress.Proofs.ExactGeometry

/-!
# Rounding to doubles

Arithmetic on doubles is exact up to the last step, in which a number with more bits than there are
is rounded. That step comes to a double with no other one between it and the number, and so do sums,
differences, products and quotients. Only how large a double may be is left out of account here.
-/
namespace DeckPress.Number

open Float.Model hiding unpack pack add sub mul div ofInt ofNat ofScientific
open Float.Model.UnpackedFloat

/-- The number lies at the mantissa or between it and the next one; the further bits tell which. -/
structure Holds (em : ExtendedMantissa) (p : ℚ) : Prop where
  le : (em.mantissa : ℚ) ≤ p
  lt : p < em.mantissa + 1
  eq_iff : p = em.mantissa ↔ em.roundBit = false ∧ em.stickyBit = false

theorem Holds.shiftRightOne {em : ExtendedMantissa} {p : ℚ} (h : Holds em p) :
    Holds em.shiftRightOne (p / 2) := by
  obtain ⟨m, r, s⟩ := em
  have hle : (m : ℚ) ≤ p := h.le
  have hlt : p < m + 1 := h.lt
  have heq : p = m ↔ r = false ∧ s = false := h.eq_iff
  have hm : ((m % 2 : ℕ) : ℚ) + 2 * ((m / 2 : ℕ) : ℚ) = m := by exact_mod_cast Nat.mod_add_div m 2
  rcases Nat.mod_two_eq_zero_or_one m with hr | hr
  · rw [hr, Nat.cast_zero, zero_add] at hm
    refine ⟨?_, ?_, ?_⟩
    · change ((m / 2 : ℕ) : ℚ) ≤ p / 2
      linarith
    · change p / 2 < ((m / 2 : ℕ) : ℚ) + 1
      linarith
    · change p / 2 = ((m / 2 : ℕ) : ℚ) ↔ (m % 2 != 0) = false ∧ (r || s) = false
      rw [hr, Bool.or_eq_false_iff, ← heq]
      constructor
      · exact fun hp => ⟨rfl, by linarith⟩
      · rintro ⟨-, hp⟩
        linarith
  · rw [hr, Nat.cast_one] at hm
    refine ⟨?_, ?_, ?_⟩
    · change ((m / 2 : ℕ) : ℚ) ≤ p / 2
      linarith
    · change p / 2 < ((m / 2 : ℕ) : ℚ) + 1
      linarith
    · change p / 2 = ((m / 2 : ℕ) : ℚ) ↔ (m % 2 != 0) = false ∧ (r || s) = false
      rw [hr]
      constructor
      · intro hp
        linarith
      · rintro ⟨hodd, -⟩
        cases hodd

theorem Holds.shiftRight {em : ExtendedMantissa} {p : ℚ} (h : Holds em p) (n : ℕ) :
    Holds (em >>> n) (p / 2 ^ n) := by
  change Holds (n.repeat ExtendedMantissa.shiftRightOne em) _
  induction n with
  | zero => simpa [Nat.repeat] using h
  | succ n ih =>
    rw [Nat.repeat, pow_succ, ← div_div]
    exact ih.shiftRightOne

/-- The mantissa is rounded to one of the two whole numbers next to the number. -/
theorem Holds.le_roundedMantissa {em : ExtendedMantissa} {p : ℚ} (h : Holds em p) {z : ℤ}
    (hz : (z : ℚ) ≤ p) : z ≤ em.roundedMantissa := by
  have hlt : (z : ℚ) < ((em.mantissa + 1 : ℤ) : ℚ) := by
    push_cast
    exact hz.trans_lt h.lt
  have hz' : z < em.mantissa + 1 := by exact_mod_cast hlt
  have hround : em.mantissa ≤ em.roundedMantissa := by
    unfold ExtendedMantissa.roundedMantissa Accuracy.roundToNearestEven
    split <;> omega
  omega

theorem Holds.roundedMantissa_le {em : ExtendedMantissa} {p : ℚ} (h : Holds em p) {z : ℤ}
    (hz : p ≤ z) : em.roundedMantissa ≤ z := by
  by_cases hp : p = em.mantissa
  · obtain ⟨hr, hs⟩ := h.eq_iff.1 hp
    obtain ⟨m, r, s⟩ := em
    cases hr
    cases hs
    rw [hp] at hz
    exact_mod_cast hz
  · have hlt : (em.mantissa : ℚ) < z := (lt_of_le_of_ne h.le (Ne.symm hp)).trans_le hz
    have hlt' : (em.mantissa : ℤ) < z := by exact_mod_cast hlt
    have := DeckPress.Number.roundedMantissa_le em
    omega

/-- The number is a double, unless it is too large for one. -/
def IsDouble (q : ℚ) : Prop := ∃ n f : ℤ, |n| < 2 ^ 53 ∧ -1074 ≤ f ∧ q = n * 2 ^ f

/-- No double lies between the two numbers, and the second one is a double. -/
structure Rounds (q r : ℚ) : Prop where
  isDouble : IsDouble r
  le : ∀ y, IsDouble y → y ≤ q → y ≤ r
  ge : ∀ y, IsDouble y → q ≤ y → r ≤ y

theorem IsDouble.neg {q : ℚ} (h : IsDouble q) : IsDouble (-q) := by
  obtain ⟨n, f, hn, hf, rfl⟩ := h
  exact ⟨-n, f, by rwa [abs_neg], hf, by push_cast; ring⟩

theorem Rounds.neg {q r : ℚ} (h : Rounds q r) : Rounds (-q) (-r) where
  isDouble := h.isDouble.neg
  le y hy hyq := by
    have := h.ge (-y) hy.neg (by linarith)
    linarith
  ge y hy hyq := by
    have := h.le (-y) hy.neg (by linarith)
    linarith

theorem Rounds.refl {q : ℚ} (h : IsDouble q) : Rounds q q :=
  ⟨h, fun _ _ hy => hy, fun _ _ hy => hy⟩

/-- A double is a multiple of a power of two, or it is too small to fill 53 bits above it. -/
theorem IsDouble.multiple_or_lt {q : ℚ} (h : IsDouble q) (g : ℤ) :
    (∃ z : ℤ, q = z * 2 ^ g) ∨ -1074 < g ∧ q < 2 ^ 52 * 2 ^ g := by
  obtain ⟨n, f, hn, hf, rfl⟩ := h
  rcases le_or_gt g f with hgf | hfg
  · left
    obtain ⟨j, rfl⟩ := Int.le.dest hgf
    refine ⟨n * 2 ^ j, ?_⟩
    rw [zpow_add₀ two_ne_zero, zpow_natCast]
    push_cast
    ring
  · right
    have hn' : (n : ℚ) < 2 ^ 53 := by exact_mod_cast (abs_lt.1 hn).2
    refine ⟨by omega, ?_⟩
    calc (n : ℚ) * 2 ^ f < 2 ^ 53 * 2 ^ f := mul_lt_mul_of_pos_right hn' (by positivity)
      _ ≤ 2 ^ 53 * 2 ^ (g - 1) := by
          gcongr
          · norm_num
          · omega
      _ = 2 ^ 52 * 2 ^ g := by
          rw [zpow_sub₀ two_ne_zero]
          ring

/-- A number is rounded to the multiple of a power of two that is next to it, if it fills the 52
bits above that power or the power is as low as can be. -/
theorem rounds_of_grid {q : ℚ} {k : ℕ} {t : ℤ} (hk : k ≤ 2 ^ 53) (ht : -1074 ≤ t)
    (hlow : t = -1074 ∨ 2 ^ 52 * 2 ^ t ≤ q)
    (hle : ∀ z : ℤ, z * 2 ^ t ≤ q → z ≤ k) (hge : ∀ z : ℤ, q ≤ z * 2 ^ t → (k : ℤ) ≤ z) :
    Rounds q (k * 2 ^ t) := by
  have hpos : (0 : ℚ) < 2 ^ t := by positivity
  refine ⟨?_, fun y hy hyq => ?_, fun y hy hyq => ?_⟩
  · rcases hk.lt_or_eq with hlt | rfl
    · refine ⟨k, t, ?_, ht, by push_cast; rfl⟩
      rw [Nat.abs_cast]
      exact_mod_cast hlt
    · refine ⟨2 ^ 52, t + 1, by norm_num, by omega, ?_⟩
      rw [zpow_add₀ two_ne_zero]
      push_cast
      ring
  · obtain ⟨z, rfl⟩ | ⟨hne, hy⟩ := hy.multiple_or_lt t
    · have hz : (z : ℚ) ≤ k := by exact_mod_cast hle z hyq
      gcongr
    · have hk52 : (2 ^ 52 : ℤ) ≤ k := hle (2 ^ 52) (by exact_mod_cast hlow.resolve_left hne.ne')
      have hk52' : (2 : ℚ) ^ 52 ≤ k := by exact_mod_cast hk52
      calc y ≤ 2 ^ 52 * 2 ^ t := hy.le
        _ ≤ k * 2 ^ t := mul_le_mul_of_nonneg_right hk52' hpos.le
  · obtain ⟨z, rfl⟩ | ⟨hne, hy⟩ := hy.multiple_or_lt t
    · have hz : (k : ℚ) ≤ z := by exact_mod_cast hge z hyq
      gcongr
    · exact absurd (hy.trans_le ((hlow.resolve_left hne.ne').trans hyq)) (lt_irrefl y)

/-- A number as doubles hold it, but for its size: the mantissa has 53 bits, unless the exponent is
as low as can be. -/
def IsCanonical : UnpackedFloat → Prop
  | .zero _ => True
  | .finite _ m e _ => m < 2 ^ 53 ∧ -1074 ≤ e ∧ (2 ^ 52 ≤ m ∨ e = -1074)
  | _ => False

/-- The rational that an unpacked number is; zero stands for what is not finite. -/
def value : UnpackedFloat → ℚ
  | .finite s m e _ => s.apply m * 2 ^ e
  | _ => 0

theorem shiftToTargetExponent_spec {m : ℕ} {e : ℤ} {a : Accuracy} {q : ℚ}
    (hq : Holds (.ofMantissaAndAccuracy m a) (q / 2 ^ e))
    (he : e ≤ max (totalExponent m e - 53) (-1074)) :
    let x := shiftToTargetExponent .binary64 m e a
    x.1.roundedMantissa ≤ 2 ^ 53 ∧ -1074 ≤ x.2 ∧ (x.2 = -1074 ∨ 2 ^ 52 * 2 ^ x.2 ≤ q) ∧
      Holds x.1 (q / 2 ^ x.2) := by
  intro x
  have hexp : x.2 = max (totalExponent m e - 53) (-1074) :=
    (shiftToTargetExponent_snd m e a).trans (max_eq_right he)
  have hfst : x.1.mantissa < 2 ^ 53 := shiftToTargetExponent_fst_lt m e a
  have hround := DeckPress.Number.roundedMantissa_le x.1
  have hmant : (ExtendedMantissa.ofMantissaAndAccuracy m a).mantissa = m :=
    mantissa_ofMantissaAndAccuracy m a
  have hle : (m : ℚ) ≤ q / 2 ^ e := by
    have := hq.le
    rwa [hmant] at this
  refine ⟨by omega, by omega, ?_, ?_⟩
  · by_cases h : x.2 = -1074
    · exact .inl h
    · right
      have htotal : (52 : ℤ) + x.2 = m.log2 + e := by
        unfold totalExponent at hexp
        omega
      have hm : m ≠ 0 := by
        rintro rfl
        unfold totalExponent at he hexp
        simp only [Nat.log2_zero] at he hexp
        omega
      have hlog : (2 : ℚ) ^ m.log2 ≤ m := by exact_mod_cast Nat.log2_self_le hm
      rw [le_div_iff₀ (by positivity)] at hle
      calc (2 : ℚ) ^ 52 * 2 ^ x.2 = 2 ^ ((52 : ℤ) + x.2) := by
            rw [zpow_add₀ two_ne_zero]
            norm_num
        _ = 2 ^ m.log2 * 2 ^ e := by rw [htotal, zpow_add₀ two_ne_zero, zpow_natCast]
        _ ≤ m * 2 ^ e := by gcongr
        _ ≤ q := hle
  · have hshift := hq.shiftRight (max (totalExponent m e - 53) (-1074) - e).toNat
    have hpow : (2 : ℚ) ^ x.2 =
        2 ^ e * 2 ^ (max (totalExponent m e - 53) (-1074) - e).toNat := by
      rw [← zpow_natCast, ← zpow_add₀ two_ne_zero, hexp]
      congr 1
      omega
    rw [hpow, ← div_div]
    exact hshift

/-- A mantissa that was rounded up to another bit is written with one bit less, without a change. -/
theorem shiftToTargetExponent_exact {k : ℕ} {t : ℤ} (hk : k ≤ 2 ^ 53) (ht : -1074 ≤ t)
    (hlow : t = -1074 ∨ 2 ^ 52 ≤ k) :
    let y := shiftToTargetExponent .binary64 k t .exact
    (y.1.mantissa : ℚ) * 2 ^ y.2 = k * 2 ^ t ∧ y.1.mantissa < 2 ^ 53 ∧ -1074 ≤ y.2 ∧
      (2 ^ 52 ≤ y.1.mantissa ∨ y.2 = -1074) := by
  intro y
  have hexp : y.2 = max t (max (totalExponent k t - 53) (-1074)) :=
    shiftToTargetExponent_snd k t .exact
  have hmant : y.1.mantissa = k / 2 ^ (max (totalExponent k t - 53) (-1074) - t).toNat :=
    mantissa_shiftRight ..
  unfold totalExponent at hexp hmant
  rcases hk.lt_or_eq with hlt | rfl
  · have hlog : k.log2 < 53 := log2_lt_of_lt (by norm_num) hlt
    have hshift : (max ((k.log2 : ℤ) + 1 + t - 53) (-1074) - t).toNat = 0 := by omega
    have hy : y.2 = t := by omega
    rw [hshift, pow_zero, Nat.div_one] at hmant
    rw [hmant, hy]
    exact ⟨rfl, hlt, ht, hlow.symm⟩
  · have hlog : (2 ^ 53 : ℕ).log2 = 53 := Nat.log2_two_pow
    rw [hlog] at hexp hmant
    have hshift : (max (((53 : ℕ) : ℤ) + 1 + t - 53) (-1074) - t).toNat = 1 := by omega
    have hy : y.2 = t + 1 := by omega
    rw [hshift] at hmant
    have hmant' : y.1.mantissa = 2 ^ 52 := hmant.trans (by norm_num)
    rw [hmant', hy]
    refine ⟨?_, by norm_num, by omega, .inl le_rfl⟩
    rw [zpow_add₀ two_ne_zero]
    push_cast
    ring

def signed (s : Sign) (q : ℚ) : ℚ :=
  match s with
  | .positive => q
  | .negative => -q

theorem value_finite (s : Sign) (m : ℕ) (e : ℤ) (hm : 0 < m) :
    value (.finite s m e hm) = signed s (m * 2 ^ e) := by
  cases s <;> simp [value, signed, Sign.apply]

theorem Rounds.signed {q r : ℚ} (h : Rounds q r) (s : Sign) :
    Rounds (Number.signed s q) (Number.signed s r) := by
  cases s
  · exact h.neg
  · exact h

/-- A number that is given with more bits than there are is rounded to a double next to it. -/
theorem roundWithAccuracy_spec (s : Sign) {m : ℕ} {e : ℤ} {a : Accuracy} {q : ℚ}
    (hq : Holds (.ofMantissaAndAccuracy m a) (q / 2 ^ e))
    (he : e ≤ max (totalExponent m e - 53) (-1074)) :
    IsCanonical (roundWithAccuracy .binary64 s m e a) ∧
      Rounds (signed s q) (value (roundWithAccuracy .binary64 s m e a)) := by
  obtain ⟨hk, ht, hlow, hx⟩ := shiftToTargetExponent_spec hq he
  unfold roundWithAccuracy
  rcases hshift : shiftToTargetExponent .binary64 m e a with ⟨em, t⟩
  rw [hshift] at hk ht hlow hx
  dsimp only at hk ht hlow hx ⊢
  have hpos : (0 : ℚ) < 2 ^ t := by positivity
  have hrounds : Rounds q (em.roundedMantissa * 2 ^ t) := by
    refine rounds_of_grid hk ht hlow (fun z hz => ?_) fun z hz => ?_
    · exact hx.le_roundedMantissa ((le_div_iff₀ hpos).2 hz)
    · exact hx.roundedMantissa_le ((div_le_iff₀ hpos).2 hz)
  have hlow' : t = -1074 ∨ 2 ^ 52 ≤ em.roundedMantissa := by
    refine hlow.imp_right fun h => ?_
    have := hx.le_roundedMantissa (z := 2 ^ 52) ((le_div_iff₀ hpos).2 (by exact_mod_cast h))
    exact_mod_cast this
  obtain ⟨hvalue, hlt, hmin, hnormal⟩ := shiftToTargetExponent_exact hk ht hlow'
  rcases hshift' : shiftToTargetExponent .binary64 em.roundedMantissa t .exact with ⟨em', t'⟩
  rw [hshift'] at hvalue hlt hmin hnormal
  dsimp only at hvalue hlt hmin hnormal ⊢
  rw [← hvalue] at hrounds
  split
  · next hzero =>
    refine ⟨trivial, ?_⟩
    rw [hzero, Nat.cast_zero, zero_mul] at hrounds
    have h0 := hrounds.signed s
    cases s <;> simpa [Number.signed, value] using h0
  · next hzero =>
    refine ⟨⟨hlt, hmin, hnormal⟩, ?_⟩
    rw [value_finite]
    exact hrounds.signed s

theorem holds_exact (m : ℕ) : Holds (.ofMantissaAndAccuracy m .exact) m :=
  ⟨le_rfl, lt_add_one _, iff_of_true rfl ⟨rfl, rfl⟩⟩

theorem isDouble_zero : IsDouble 0 := ⟨0, 0, by norm_num, by norm_num, by norm_num⟩

theorem log2_mul_two_pow {m : ℕ} (hm : m ≠ 0) (n : ℕ) : (m * 2 ^ n).log2 = m.log2 + n := by
  induction n with
  | zero => rw [pow_zero, mul_one, Nat.add_zero]
  | succ n ih =>
    rw [pow_succ', Nat.mul_left_comm, Nat.log2_two_mul (by positivity), ih, Nat.add_assoc]

theorem round_spec (s : Sign) {m : ℕ} (hm : 0 < m) (e : ℤ) :
    IsCanonical (round .binary64 s m e) ∧
      Rounds (signed s (m * 2 ^ e)) (value (round .binary64 s m e)) := by
  set n := (e - max (totalExponent m e - 53) (-1074)).toNat with hn
  have hround : round .binary64 s m e =
      roundWithAccuracy .binary64 s (m * 2 ^ n) (e - n) .exact := by
    rw [← Nat.shiftLeft_eq]
    rfl
  have hvalue : (m : ℚ) * 2 ^ e / 2 ^ (e - n) = ((m * 2 ^ n : ℕ) : ℚ) := by
    rw [div_eq_iff (by positivity)]
    push_cast
    rw [mul_assoc, ← zpow_natCast, ← zpow_add₀ two_ne_zero]
    congr 2
    omega
  have htotal : totalExponent (m * 2 ^ n) (e - n) = totalExponent m e := by
    unfold totalExponent
    rw [log2_mul_two_pow hm.ne']
    push_cast
    omega
  rw [hround]
  refine roundWithAccuracy_spec s ?_ (by rw [htotal]; omega)
  rw [hvalue]
  exact holds_exact _

theorem normalize_spec (n e : ℤ) (s : Sign) :
    IsCanonical (UnpackedFloat.normalize .binary64 n e s) ∧
      Rounds (n * 2 ^ e) (value (UnpackedFloat.normalize .binary64 n e s)) := by
  unfold UnpackedFloat.normalize
  split
  · next h =>
    have hn := Int.compare_eq_lt.1 h
    have hspec := round_spec .negative (m := (-n).toNat) (by omega) e
    have hcast : (((-n).toNat : ℕ) : ℚ) = -n := by
      have : (((-n).toNat : ℤ) : ℚ) = ((-n : ℤ) : ℚ) := by rw [Int.toNat_of_nonneg (by omega)]
      push_cast at this
      exact this
    rw [hcast, signed, neg_mul, neg_neg] at hspec
    exact hspec
  · next h =>
    have hn := Int.compare_eq_eq.1 h
    rw [hn, Int.cast_zero, zero_mul]
    exact ⟨trivial, .refl isDouble_zero⟩
  · next h =>
    have hn := Int.compare_eq_gt.1 h
    have hspec := round_spec .positive (m := n.toNat) (by omega) e
    have hcast : ((n.toNat : ℕ) : ℚ) = n := by
      have : ((n.toNat : ℤ) : ℚ) = (n : ℚ) := by rw [Int.toNat_of_nonneg (by omega)]
      exact_mod_cast this
    rw [hcast] at hspec
    exact hspec

theorem IsCanonical.isDouble {u : UnpackedFloat} (h : IsCanonical u) : IsDouble (value u) := by
  cases u with
  | zero s => exact isDouble_zero
  | finite s m e hm =>
    refine ⟨s.apply m, e, ?_, h.2.1, rfl⟩
    rw [Int.abs_eq_natAbs, natAbs_apply]
    exact_mod_cast h.1
  | _ => exact h.elim

/-- A mantissa that is written with a lower exponent. -/
theorem apply_shiftLeft (s : Sign) (m : ℕ) {e t : ℤ} (h : t ≤ e) :
    ((s.apply (m <<< (e - t).toNat : ℕ) : ℤ) : ℚ) * 2 ^ t = (s.apply m : ℤ) * 2 ^ e := by
  have hpow : (2 : ℚ) ^ e = 2 ^ (e - t).toNat * 2 ^ t := by
    rw [← zpow_natCast, ← zpow_add₀ two_ne_zero]
    congr 1
    omega
  rw [Nat.shiftLeft_eq, hpow]
  cases s with
  | positive =>
    simp only [Sign.apply]
    push_cast
    ring
  | negative =>
    simp only [Sign.apply]
    push_cast
    ring

@[simp]
theorem value_zero (s : Sign) : value (.zero s) = 0 := rfl

theorem isCanonical_iff {u : UnpackedFloat} :
    IsCanonical u ↔ (∃ s, u = .zero s) ∨
      ∃ s m e hm, u = .finite s m e hm ∧ IsCanonical (.finite s m e hm) := by
  cases u with
  | zero s => exact iff_of_true trivial (.inl ⟨s, rfl⟩)
  | finite s m e hm =>
    constructor
    · exact fun h => .inr ⟨s, m, e, hm, rfl, h⟩
    · rintro (⟨_, h⟩ | ⟨_, _, _, _, h, hc⟩)
      · cases h
      · exact h ▸ hc
  | _ => simp [IsCanonical]

theorem value_neg (u : UnpackedFloat) : value u.neg = -value u := by
  cases u with
  | finite s m e hm =>
    rw [UnpackedFloat.neg, value_finite, value_finite]
    cases s
    · exact (neg_neg _).symm
    · rfl
  | _ => exact neg_zero.symm

theorem add_spec {u v : UnpackedFloat} (hu : IsCanonical u) (hv : IsCanonical v) :
    IsCanonical (add .binary64 u v) ∧ Rounds (value u + value v) (value (add .binary64 u v)) := by
  obtain ⟨s, rfl⟩ | ⟨s, m, e, hm, rfl, hu⟩ := isCanonical_iff.1 hu
  · rw [value_zero, zero_add]
    obtain ⟨s', rfl⟩ | ⟨s', m', e', hm', rfl, hv⟩ := isCanonical_iff.1 hv
    · cases s <;> cases s' <;> exact ⟨trivial, .refl isDouble_zero⟩
    · exact ⟨hv, .refl hv.isDouble⟩
  · obtain ⟨s', rfl⟩ | ⟨s', m', e', hm', rfl, hv⟩ := isCanonical_iff.1 hv
    · rw [value_zero, add_zero]
      exact ⟨hu, .refl hu.isDouble⟩
    · have hspec := normalize_spec (s.apply (m <<< (e - min e e').toNat : ℕ) +
        s'.apply (m' <<< (e' - min e e').toNat : ℕ)) (min e e') .positive
      rw [Int.cast_add, add_mul, apply_shiftLeft s m (min_le_left _ _),
        apply_shiftLeft s' m' (min_le_right _ _)] at hspec
      exact hspec

theorem sub_spec {u v : UnpackedFloat} (hu : IsCanonical u) (hv : IsCanonical v) :
    IsCanonical (sub .binary64 u v) ∧ Rounds (value u - value v) (value (sub .binary64 u v)) := by
  obtain ⟨s, rfl⟩ | ⟨s, m, e, hm, rfl, hu⟩ := isCanonical_iff.1 hu
  · rw [value_zero, zero_sub]
    obtain ⟨s', rfl⟩ | ⟨s', m', e', hm', rfl, hv⟩ := isCanonical_iff.1 hv
    · rw [value_zero, neg_zero]
      cases s <;> cases s' <;> exact ⟨trivial, .refl isDouble_zero⟩
    · have hv' : IsCanonical (UnpackedFloat.neg (.finite s' m' e' hm')) := hv
      rw [← value_neg]
      exact ⟨hv', .refl hv'.isDouble⟩
  · obtain ⟨s', rfl⟩ | ⟨s', m', e', hm', rfl, hv⟩ := isCanonical_iff.1 hv
    · rw [value_zero, sub_zero]
      exact ⟨hu, .refl hu.isDouble⟩
    · have hspec := normalize_spec (s.apply (m <<< (e - min e e').toNat : ℕ) -
        s'.apply (m' <<< (e' - min e e').toNat : ℕ)) (min e e') .positive
      rw [Int.cast_sub, sub_mul, apply_shiftLeft s m (min_le_left _ _),
        apply_shiftLeft s' m' (min_le_right _ _)] at hspec
      exact hspec

theorem signed_mul (s s' : Sign) (p q : ℚ) :
    signed (s * s') (p * q) = signed s p * signed s' q := by
  cases s <;> cases s'
  · exact (neg_mul_neg p q).symm
  · exact (neg_mul p q).symm
  · exact (mul_neg p q).symm
  · rfl

/-- The exponents of two factors add up to no more than their product is to have. -/
theorem exponent_mul_le {s s' : Sign} {m m' : ℕ} {e e' : ℤ} {hm : 0 < m} {hm' : 0 < m'}
    (hu : IsCanonical (.finite s m e hm)) (hv : IsCanonical (.finite s' m' e' hm')) :
    e + e' ≤ max (totalExponent (m * m') (e + e') - 53) (-1074) := by
  obtain ⟨-, hmin, hnormal⟩ := hu
  obtain ⟨-, hmin', hnormal'⟩ := hv
  by_cases h : 2 ^ 52 ≤ m * m'
  · have hlog : 52 ≤ (m * m').log2 := (Nat.le_log2 (by positivity)).2 h
    unfold totalExponent
    omega
  · have hm₁ : m ≤ m * m' := Nat.le_mul_of_pos_right m hm'
    have hm₂ : m' ≤ m * m' := Nat.le_mul_of_pos_left m' hm
    omega

theorem mul_spec {u v : UnpackedFloat} (hu : IsCanonical u) (hv : IsCanonical v) :
    IsCanonical (mul .binary64 u v) ∧ Rounds (value u * value v) (value (mul .binary64 u v)) := by
  obtain ⟨s, rfl⟩ | ⟨s, m, e, hm, rfl, hu⟩ := isCanonical_iff.1 hu
  · rw [value_zero, zero_mul]
    obtain ⟨s', rfl⟩ | ⟨s', m', e', hm', rfl, hv⟩ := isCanonical_iff.1 hv <;>
      exact ⟨trivial, .refl isDouble_zero⟩
  · obtain ⟨s', rfl⟩ | ⟨s', m', e', hm', rfl, hv⟩ := isCanonical_iff.1 hv
    · rw [value_zero, mul_zero]
      exact ⟨trivial, .refl isDouble_zero⟩
    · have hproduct : (m : ℚ) * 2 ^ e * (m' * 2 ^ e') / 2 ^ (e + e') = ((m * m' : ℕ) : ℚ) := by
        rw [div_eq_iff (by positivity), zpow_add₀ two_ne_zero]
        push_cast
        ring
      rw [value_finite, value_finite, ← signed_mul]
      refine roundWithAccuracy_spec (s * s') ?_ (exponent_mul_le hu hv)
      rw [hproduct]
      exact holds_exact _

theorem signed_div (s s' : Sign) (p q : ℚ) :
    signed (s / s') (p / q) = signed s p / signed s' q := by
  cases s <;> cases s'
  · exact (neg_div_neg_eq p q).symm
  · exact (neg_div q p).symm
  · exact (div_neg p).symm
  · rfl

/-- The remainder tells where the quotient lies. -/
theorem holds_div (n : ℕ) {k : ℕ} (hk : 0 < k) :
    Holds (.ofMantissaAndAccuracy (n / k) (accuracyOfFraction (n % k) k)) ((n : ℚ) / k) := by
  have hk' : (0 : ℚ) < k := by exact_mod_cast hk
  have hn : (k : ℚ) * ((n / k : ℕ) : ℚ) + ((n % k : ℕ) : ℚ) = n := by
    exact_mod_cast Nat.div_add_mod n k
  have hrest : ((n % k : ℕ) : ℚ) < k := by exact_mod_cast Nat.mod_lt n hk
  have hmant := mantissa_ofMantissaAndAccuracy (n / k) (accuracyOfFraction (n % k) k)
  refine ⟨?_, ?_, ?_⟩
  · rw [hmant, le_div_iff₀ hk']
    have : (0 : ℚ) ≤ ((n % k : ℕ) : ℚ) := by positivity
    linarith
  · rw [hmant, div_lt_iff₀ hk']
    linarith
  · rw [hmant, div_eq_iff hk'.ne']
    unfold accuracyOfFraction
    split
    · next h =>
      rw [h, Nat.cast_zero] at hn
      exact iff_of_true (by linarith) ⟨rfl, rfl⟩
    · next h =>
      have hpos : (0 : ℚ) < ((n % k : ℕ) : ℚ) := by exact_mod_cast Nat.pos_of_ne_zero h
      refine iff_of_false (by linarith) ?_
      unfold ExtendedMantissa.ofMantissaAndAccuracy
      split <;> simp_all

/-- The exponent that a quotient is begun with is no higher than it is to have. -/
theorem exponent_div_le {m m' : ℕ} (hm : 0 < m) (hm' : 0 < m') {d t : ℤ} {n : ℕ}
    (ht : t ≤ max ((m.log2 : ℤ) - m'.log2 + d - 53) (-1074)) (hn : (n : ℤ) = d - t) :
    t ≤ max (totalExponent (m * 2 ^ n / m') t - 53) (-1074) := by
  by_cases h : (m'.log2 : ℤ) + 1 ≤ m.log2 + n
  · -- the quotient has at least as many bits as the lengths of the mantissas tell
    obtain ⟨j, hj⟩ : ∃ j : ℕ, m.log2 + n = j + (m'.log2 + 1) :=
      ⟨m.log2 + n - (m'.log2 + 1), by omega⟩
    have hquotient : 2 ^ j ≤ m * 2 ^ n / m' := by
      rw [Nat.le_div_iff_mul_le hm']
      calc 2 ^ j * m' ≤ 2 ^ j * 2 ^ (m'.log2 + 1) := Nat.mul_le_mul_left _ Nat.lt_log2_self.le
        _ = 2 ^ m.log2 * 2 ^ n := by rw [← pow_add, ← pow_add, hj]
        _ ≤ m * 2 ^ n := Nat.mul_le_mul_right _ (Nat.log2_self_le hm.ne')
    have hpos : 0 < m * 2 ^ n / m' := lt_of_lt_of_le (by positivity) hquotient
    have hlog : j ≤ (m * 2 ^ n / m').log2 := (Nat.le_log2 hpos.ne').2 hquotient
    unfold totalExponent
    omega
  · omega

theorem div_spec {u v : UnpackedFloat} (hu : IsCanonical u) (hv : IsCanonical v)
    (h0 : value v ≠ 0) :
    IsCanonical (div .binary64 u v) ∧ Rounds (value u / value v) (value (div .binary64 u v)) := by
  obtain ⟨s', rfl⟩ | ⟨s', m', e', hm', rfl, hv⟩ := isCanonical_iff.1 hv
  · exact absurd rfl h0
  obtain ⟨s, rfl⟩ | ⟨s, m, e, hm, rfl, hu⟩ := isCanonical_iff.1 hu
  · rw [value_zero, zero_div]
    exact ⟨trivial, .refl isDouble_zero⟩
  · set t := min (e - e') (max (totalExponent m e - totalExponent m' e' - 53) (-1074)) with ht
    have hdiv : div .binary64 (.finite s m e hm) (.finite s' m' e' hm') =
        roundWithAccuracy .binary64 (s / s') (m * 2 ^ (e - e' - t).toNat / m') t
          (accuracyOfFraction (m * 2 ^ (e - e' - t).toNat % m') m') := by
      rw [← Nat.shiftLeft_eq]
      rfl
    have hquotient : (m : ℚ) * 2 ^ e / (m' * 2 ^ e') / 2 ^ t =
        ((m * 2 ^ (e - e' - t).toNat : ℕ) : ℚ) / m' := by
      have hm0 : (m' : ℚ) ≠ 0 := by exact_mod_cast hm'.ne'
      have hpow : (2 : ℚ) ^ e = 2 ^ (e - e' - t).toNat * 2 ^ t * 2 ^ e' := by
        rw [← zpow_natCast, ← zpow_add₀ two_ne_zero, ← zpow_add₀ two_ne_zero]
        congr 1
        omega
      rw [hpow]
      push_cast
      field_simp
    have hexp := exponent_div_le hm hm' (d := e - e') (t := t) (n := (e - e' - t).toNat)
      (by unfold totalExponent at ht; omega) (by omega)
    rw [hdiv, value_finite, value_finite, ← signed_div]
    refine roundWithAccuracy_spec (s / s') ?_ hexp
    rw [hquotient]
    exact holds_div _ hm'

end DeckPress.Number
