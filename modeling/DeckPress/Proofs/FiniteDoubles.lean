import DeckPress.Proofs.Rounding

/-!
# Finite doubles

Finite doubles are rationals of a certain form, no larger than the largest of them. They are ordered
as rationals, and where a sum, a difference, a product or a quotient of two of them is not too
large, it is finite and no other double lies between it and the exact one. What is not finite does
not become so again.
-/
namespace DeckPress.Number

open Float.Model hiding unpack pack add sub mul div ofInt ofNat ofScientific
open Float.Model.UnpackedFloat

theorem unpack_normal (s : Sign) {x : BitVec 11} {m : BitVec 52} (hx : x ≠ -1#11)
    (h0 : x ≠ 0#11) (hm : 0 < (1#1 ++ m).toNat) :
    unpack .binary64 (packComponents .binary64 s x m) =
      .finite s (1#1 ++ m).toNat (x.toNat - 1075) hm := by
  have hsign : unpackSign (packComponents .binary64 s x m) = s.toBitVec :=
    unpackSign_packComponents ..
  have hexp : unpackExponent (packComponents .binary64 s x m) = x := unpackExponent_packComponents
  have hmant : unpackMantissa (packComponents .binary64 s x m) = m := unpackMantissa_packComponents
  unfold unpack
  simp only [hsign, hexp, hmant, hx, h0, if_false, Sign.ofBitVec_toBitVec]
  rfl

theorem unpack_subnormal (s : Sign) {m : BitVec 52} (hm : 0 < m.toNat) :
    unpack .binary64 (packComponents .binary64 s 0#11 m) = .finite s m.toNat (-1074) hm := by
  have hsign : unpackSign (packComponents .binary64 s 0#11 m) = s.toBitVec :=
    unpackSign_packComponents ..
  have hexp : unpackExponent (packComponents .binary64 s 0#11 m) = 0#11 :=
    unpackExponent_packComponents
  have hmant : unpackMantissa (packComponents .binary64 s 0#11 m) = m :=
    unpackMantissa_packComponents
  have h0 : m ≠ 0#52 := by
    rintro rfl
    exact absurd hm (by decide)
  have hne : 0#11 ≠ -1#11 := by decide
  unfold unpack
  simp only [hsign, hexp, hmant, h0, hne, if_false, Sign.ofBitVec_toBitVec]
  rfl

theorem unpack_pack {s : Sign} {m : ℕ} {e : ℤ} {hm : 0 < m} (h : IsCanonical (.finite s m e hm))
    (he : e ≤ 971) :
    unpack .binary64 (pack .binary64 (.finite s m e hm)) = .finite s m e hm := by
  obtain ⟨hlt, hmin, hnormal⟩ := h
  have hpack : pack .binary64 (.finite s m e hm) =
      if 2048 ≤ (e + 1023 + 52).toNat + 1 then packedInfinity .binary64 s
      else if m.log2 + 1 = 53 then
        packComponents .binary64 s (BitVec.ofNat 11 (e + 1023 + 52).toNat) (BitVec.ofNat 52 m)
      else packComponents .binary64 s 0#11 (BitVec.ofNat 52 m) := rfl
  have hbiased : (e + 1023 + 52).toNat < 2047 := by omega
  rw [hpack, if_neg (by omega)]
  by_cases hbits : 2 ^ 52 ≤ m
  · have hlog : m.log2 = 52 := (Nat.log2_eq_iff hm.ne').2 ⟨hbits, hlt⟩
    have hexp : (BitVec.ofNat 11 (e + 1023 + 52).toNat).toNat = (e + 1023 + 52).toNat := by
      rw [BitVec.toNat_ofNat]
      omega
    have hmant : (1#1 ++ BitVec.ofNat 52 m).toNat = m := by
      rw [BitVec.toNat_append, ← Nat.shiftLeft_add_eq_or_of_lt (BitVec.isLt _), BitVec.toNat_ofNat]
      simp only [Nat.shiftLeft_eq, BitVec.toNat_ofNat]
      omega
    have hones : BitVec.ofNat 11 (e + 1023 + 52).toNat ≠ -1#11 := by
      intro h
      rw [h] at hexp
      change 2047 = _ at hexp
      omega
    have hzeros : BitVec.ofNat 11 (e + 1023 + 52).toNat ≠ 0#11 := by
      intro h
      rw [h] at hexp
      change 0 = _ at hexp
      omega
    rw [hlog, if_pos rfl, unpack_normal s hones hzeros (by omega)]
    congr 1
    omega
  · have hlog : m.log2 ≠ 52 := by
      intro h
      have := Nat.log2_self_le hm.ne'
      rw [h] at this
      omega
    have hmant : (BitVec.ofNat 52 m).toNat = m := by
      rw [BitVec.toNat_ofNat]
      omega
    rw [if_neg (by omega), unpack_subnormal s (by omega)]
    congr 1
    omega

/-- Where the larger exponent is, the number is larger. -/
theorem magnitude_lt_of_exponent_lt {m m' : ℕ} {e e' : ℤ} (hm : m < 2 ^ 53)
    (hm' : 2 ^ 52 ≤ m' ∨ e' = -1074) (he : -1074 ≤ e) (h : e < e') :
    (m : ℚ) * 2 ^ e < m' * 2 ^ e' := by
  have hm₁ : (m : ℚ) < 2 ^ 53 := by exact_mod_cast hm
  have hm₂ : (2 : ℚ) ^ 52 ≤ m' := by exact_mod_cast hm'.resolve_right (by omega)
  calc (m : ℚ) * 2 ^ e < 2 ^ 53 * 2 ^ e := mul_lt_mul_of_pos_right hm₁ (by positivity)
    _ ≤ 2 ^ 53 * 2 ^ (e' - 1) := by
        gcongr
        · norm_num
        · omega
    _ = 2 ^ 52 * 2 ^ e' := by
        rw [zpow_sub₀ two_ne_zero]
        ring
    _ ≤ m' * 2 ^ e' := by gcongr

theorem compare_magnitude {m m' : ℕ} {e e' : ℤ} (hm : m < 2 ^ 53) (hm' : m' < 2 ^ 53)
    (he : -1074 ≤ e) (he' : -1074 ≤ e') (h : 2 ^ 52 ≤ m ∨ e = -1074)
    (h' : 2 ^ 52 ≤ m' ∨ e' = -1074) :
    (compare e e').then (compare m m') = compare ((m : ℚ) * 2 ^ e) (m' * 2 ^ e') := by
  rcases lt_trichotomy e e' with hlt | rfl | hgt
  · rw [compare_lt_iff_lt.2 hlt, compare_lt_iff_lt.2 (magnitude_lt_of_exponent_lt hm h' he hlt)]
    rfl
  · have hpos : (0 : ℚ) < 2 ^ e := by positivity
    rw [compare_eq_iff_eq.2 rfl]
    change compare m m' = _
    rcases lt_trichotomy m m' with hlt | rfl | hgt
    · have hq : (m : ℚ) * 2 ^ e < m' * 2 ^ e :=
        mul_lt_mul_of_pos_right (by exact_mod_cast hlt) hpos
      rw [compare_lt_iff_lt.2 hlt, compare_lt_iff_lt.2 hq]
    · rw [compare_eq_iff_eq.2 rfl, compare_eq_iff_eq.2 rfl]
    · have hq : (m' : ℚ) * 2 ^ e < m * 2 ^ e :=
        mul_lt_mul_of_pos_right (by exact_mod_cast hgt) hpos
      rw [compare_gt_iff_gt.2 hgt, compare_gt_iff_gt.2 hq]
  · rw [compare_gt_iff_gt.2 hgt, compare_gt_iff_gt.2 (magnitude_lt_of_exponent_lt hm' h he' hgt)]
    rfl

theorem compare_neg (p q : ℚ) : compare (-p) (-q) = (compare p q).swap := by
  rcases lt_trichotomy p q with h | rfl | h
  · rw [compare_lt_iff_lt.2 h, compare_gt_iff_gt.2 (neg_lt_neg h)]
    rfl
  · rw [compare_eq_iff_eq.2 rfl, compare_eq_iff_eq.2 rfl]
    rfl
  · rw [compare_gt_iff_gt.2 h, compare_lt_iff_lt.2 (neg_lt_neg h)]
    rfl

theorem signed_pos {m : ℕ} (hm : 0 < m) (e : ℤ) : 0 < signed .positive (m * 2 ^ e) := by
  have hm' : (0 : ℚ) < m := by exact_mod_cast hm
  change (0 : ℚ) < m * 2 ^ e
  positivity

theorem signed_neg {m : ℕ} (hm : 0 < m) (e : ℤ) : signed .negative (m * 2 ^ e) < 0 :=
  neg_lt_zero.2 (signed_pos hm e)

/-- Numbers as doubles hold them are ordered as rationals. -/
theorem compare_eq {u v : UnpackedFloat} (hu : IsCanonical u) (hv : IsCanonical v) :
    u.compare v = some (compare (value u) (value v)) := by
  obtain ⟨s, rfl⟩ | ⟨s, m, e, hm, rfl, hlt, hmin, hnormal⟩ := isCanonical_iff.1 hu
  · obtain ⟨s', rfl⟩ | ⟨s', m', e', hm', rfl, -⟩ := isCanonical_iff.1 hv
    · cases s <;> cases s' <;> rfl
    · rw [value_finite, value_zero]
      cases s'
      · rw [compare_gt_iff_gt.2 (signed_neg hm' e')]
        rfl
      · rw [compare_lt_iff_lt.2 (signed_pos hm' e')]
        rfl
  · obtain ⟨s', rfl⟩ | ⟨s', m', e', hm', rfl, hlt', hmin', hnormal'⟩ := isCanonical_iff.1 hv
    · rw [value_finite, value_zero]
      cases s
      · rw [compare_lt_iff_lt.2 (signed_neg hm e)]
        rfl
      · rw [compare_gt_iff_gt.2 (signed_pos hm e)]
        rfl
    · have hcompare := compare_magnitude hlt hlt' hmin hmin' hnormal hnormal'
      rw [value_finite, value_finite]
      cases s <;> cases s'
      · change some ((compare e e').then (compare m m')).swap = _
        rw [hcompare, ← compare_neg]
        rfl
      · rw [compare_lt_iff_lt.2 ((signed_neg hm e).trans (signed_pos hm' e'))]
        rfl
      · rw [compare_gt_iff_gt.2 ((signed_neg hm' e').trans (signed_pos hm e))]
        rfl
      · change some ((compare e e').then (compare m m')) = _
        rw [hcompare]
        rfl

theorem lt_iff_value_lt {u v : UnpackedFloat} (hu : IsCanonical u) (hv : IsCanonical v) :
    u.lt v = true ↔ value u < value v := by
  rw [UnpackedFloat.lt, compare_eq hu hv, beq_iff_eq, Option.some.injEq, compare_lt_iff_lt]

/-- The largest double. -/
def largest : ℚ := (2 ^ 53 - 1) * 2 ^ (971 : ℤ)

theorem isDouble_largest : IsDouble largest :=
  ⟨2 ^ 53 - 1, 971, by norm_num, by norm_num, by norm_num [largest]⟩

theorem largest_lt : largest < 2 ^ 52 * 2 ^ (972 : ℤ) := by
  have hpos : (0 : ℚ) < 2 ^ (971 : ℤ) := by positivity
  calc largest < 2 ^ 53 * 2 ^ (971 : ℤ) := mul_lt_mul_of_pos_right (by norm_num) hpos
    _ = 2 ^ 52 * 2 ^ (971 + 1 : ℤ) := by
      rw [zpow_add₀ two_ne_zero]
      ring

theorem abs_value_finite (s : Sign) (m : ℕ) (e : ℤ) (hm : 0 < m) :
    |value (.finite s m e hm)| = m * 2 ^ e := by
  have hpos : (0 : ℚ) ≤ m * 2 ^ e := by positivity
  rw [value_finite]
  cases s
  · exact (abs_neg _).trans (abs_of_nonneg hpos)
  · exact abs_of_nonneg hpos

/-- A number that is no larger than the largest double comes back as it was packed. -/
theorem unpack_pack_of_le {u : UnpackedFloat} (hu : IsCanonical u) (h : |value u| ≤ largest) :
    unpack .binary64 (pack .binary64 u) = u := by
  obtain ⟨s, rfl⟩ | ⟨s, m, e, hm, rfl, hlt, hmin, hnormal⟩ := isCanonical_iff.1 hu
  · exact unpack_packedZero
  · refine unpack_pack ⟨hlt, hmin, hnormal⟩ (not_lt.1 fun he => ?_)
    have hm52 : (2 : ℚ) ^ 52 ≤ m := by exact_mod_cast hnormal.resolve_right (by omega)
    rw [abs_value_finite] at h
    have hlarge : (2 : ℚ) ^ 52 * 2 ^ (972 : ℤ) ≤ m * 2 ^ e := by
      gcongr
      · norm_num
      · omega
    exact absurd (hlarge.trans h) (not_le.2 largest_lt)

theorem abs_value_le {s : Sign} {m : ℕ} {e : ℤ} {hm : 0 < m} (h : m < 2 ^ 53) (he : e ≤ 971) :
    |value (.finite s m e hm)| ≤ largest := by
  have hm' : (m : ℚ) ≤ 2 ^ 53 - 1 := by
    have : (m : ℚ) + 1 ≤ 2 ^ 53 := by exact_mod_cast h
    linarith
  rw [abs_value_finite, largest]
  gcongr
  · norm_num

/-- A double is canonical, unless all bits of its exponent are set. -/
theorem isCanonical_unpack {b : BitVec Float.Model.Format.binary64.numBits}
    (h : unpackExponent b ≠ -1#11) :
    IsCanonical (unpack .binary64 b) ∧ |value (unpack .binary64 b)| ≤ largest := by
  have hbits : (unpackExponent b).toNat ≠ 2047 := fun h' => h (BitVec.eq_of_toNat_eq h')
  have hexp : (unpackExponent b).toNat < 2048 := (unpackExponent b).isLt
  unfold unpack
  simp only [h, if_false]
  split
  · next hz =>
    split
    · exact ⟨trivial, by rw [value_zero, abs_zero, largest]; positivity⟩
    · have hm : (unpackMantissa b).toNat < 2 ^ 52 := BitVec.isLt _
      have he : (((unpackExponent b).toNat : ℤ) - (1023 + 52) + 1) = -1074 := by rw [hz]; rfl
      refine ⟨⟨?_, he.ge, .inr he⟩, abs_value_le ?_ ?_⟩
      · omega
      · omega
      · exact he.trans_le (by norm_num)
  · next hz =>
    have hzero : (unpackExponent b).toNat ≠ 0 := fun h' => hz (BitVec.eq_of_toNat_eq h')
    have hm : (1#1 ++ unpackMantissa b).toNat < 2 ^ 53 := BitVec.isLt _
    have hm' : 2 ^ 52 ≤ (1#1 ++ unpackMantissa b).toNat := by
      rw [BitVec.toNat_append, ← Nat.shiftLeft_add_eq_or_of_lt (BitVec.isLt _)]
      exact Nat.le_add_right _ _
    have he : -1074 ≤ ((unpackExponent b).toNat : ℤ) - (1023 + 52) := by omega
    exact ⟨⟨hm, he, .inl hm'⟩, abs_value_le hm (by change _ - (1023 + 52 : ℤ) ≤ 971; omega)⟩

theorem exact_eq_value (x : Float) : exact x = value (parts x) := by
  unfold exact value
  cases parts x <;> rfl

theorem nonFinite?_eq_none_iff {x : Float} :
    Scalar.nonFinite? x = none ↔ (parts x).isNaN = false ∧ (parts x).isInf = false := by
  change (if (parts x).isNaN then _ else if (parts x).isInf then _ else none) = none ↔ _
  cases (parts x).isNaN <;> cases (parts x).isInf <;> simp

theorem isCanonical_parts {x : Float} (h : Scalar.nonFinite? x = none) :
    IsCanonical (parts x) ∧ |exact x| ≤ largest := by
  rw [exact_eq_value]
  refine isCanonical_unpack fun hones => ?_
  obtain ⟨hnan, hinf⟩ := nonFinite?_eq_none_iff.1 h
  have hparts : parts x = unpack .binary64 x.toModel.toBits.toBitVec := rfl
  unfold unpack at hparts
  simp only [hones, if_true] at hparts
  split at hparts
  · rw [hparts] at hinf
    cases hinf
  · rw [hparts] at hnan
    cases hnan

theorem nonFinite?_of_isCanonical {x : Float} (h : IsCanonical (parts x)) :
    Scalar.nonFinite? x = none := by
  rw [nonFinite?_eq_none_iff]
  obtain ⟨s, hx⟩ | ⟨s, m, e, hm, hx, -⟩ := isCanonical_iff.1 h <;> rw [hx] <;> exact ⟨rfl, rfl⟩

/-- The double is finite, and no other lies between the number and it. -/
structure RoundsTo (q : ℚ) (x : Float) : Prop where
  finite : Scalar.nonFinite? x = none
  rounds : Rounds q (exact x)

theorem isDouble_exact {x : Float} (h : Scalar.nonFinite? x = none) : IsDouble (exact x) :=
  exact_eq_value x ▸ (isCanonical_parts h).1.isDouble

theorem Rounds.abs_le_largest {q r : ℚ} (h : Rounds q r) (hq : |q| ≤ largest) : |r| ≤ largest := by
  obtain ⟨hlow, hhigh⟩ := abs_le.1 hq
  exact abs_le.2 ⟨h.le _ isDouble_largest.neg hlow, h.ge _ isDouble_largest hhigh⟩

theorem roundsTo_of_spec {u : UnpackedFloat} {q : ℚ} {x : Float}
    (hx : parts x = unpack .binary64 (pack .binary64 u)) (hu : IsCanonical u ∧ Rounds q (value u))
    (hq : |q| ≤ largest) : RoundsTo q x := by
  obtain ⟨hu, hr⟩ := hu
  rw [unpack_pack_of_le hu (hr.abs_le_largest hq)] at hx
  refine ⟨nonFinite?_of_isCanonical (hx ▸ hu), ?_⟩
  rwa [exact_eq_value, hx]

section Operations

variable {x y : Float} (hx : Scalar.nonFinite? x = none) (hy : Scalar.nonFinite? y = none)
include hx hy

theorem roundsTo_add (hq : |exact x + exact y| ≤ largest) :
    RoundsTo (exact x + exact y) (x + y) := by
  rw [exact_eq_value, exact_eq_value] at hq ⊢
  exact roundsTo_of_spec rfl (add_spec (isCanonical_parts hx).1 (isCanonical_parts hy).1) hq

theorem roundsTo_sub (hq : |exact x - exact y| ≤ largest) :
    RoundsTo (exact x - exact y) (x - y) := by
  rw [exact_eq_value, exact_eq_value] at hq ⊢
  exact roundsTo_of_spec rfl (sub_spec (isCanonical_parts hx).1 (isCanonical_parts hy).1) hq

theorem roundsTo_mul (hq : |exact x * exact y| ≤ largest) :
    RoundsTo (exact x * exact y) (x * y) := by
  rw [exact_eq_value, exact_eq_value] at hq ⊢
  exact roundsTo_of_spec rfl (mul_spec (isCanonical_parts hx).1 (isCanonical_parts hy).1) hq

theorem roundsTo_div (h0 : exact y ≠ 0) (hq : |exact x / exact y| ≤ largest) :
    RoundsTo (exact x / exact y) (x / y) := by
  rw [exact_eq_value] at h0
  rw [exact_eq_value, exact_eq_value] at hq ⊢
  exact roundsTo_of_spec rfl (div_spec (isCanonical_parts hx).1 (isCanonical_parts hy).1 h0) hq

/-- Finite doubles are ordered as rationals. -/
theorem lt_iff_exact_lt : x < y ↔ exact x < exact y := by
  rw [lt_iff, exact_eq_value, exact_eq_value]
  exact lt_iff_value_lt (isCanonical_parts hx).1 (isCanonical_parts hy).1

end Operations

/-- With a mantissa of 53 bits, the next double is one unit of the last bit away. -/
theorem IsDouble.next_le {q : ℚ} (h : IsDouble q) {z g : ℤ} (hz : 2 ^ 52 ≤ z)
    (hlt : z * 2 ^ g < q) : (z + 1) * 2 ^ g ≤ q := by
  obtain ⟨n, rfl⟩ | ⟨-, hsmall⟩ := h.multiple_or_lt g
  · have hpos : (0 : ℚ) < 2 ^ g := by positivity
    have hlt' : z < n := by exact_mod_cast lt_of_mul_lt_mul_right hlt hpos.le
    have hle : (z : ℚ) + 1 ≤ n := by exact_mod_cast hlt'
    exact mul_le_mul_of_nonneg_right hle hpos.le
  · have hz' : (2 : ℚ) ^ 52 ≤ z := by exact_mod_cast hz
    have hlarge : (2 : ℚ) ^ 52 * 2 ^ g ≤ z * 2 ^ g := by gcongr
    exact absurd (hsmall.trans_le hlarge) hlt.not_gt

/-- The double is just this number. -/
structure IsExactly (q : ℚ) (x : Float) : Prop where
  finite : Scalar.nonFinite? x = none
  eq : exact x = q

theorem IsExactly.isDouble {q : ℚ} {x : Float} (h : IsExactly q x) : IsDouble q :=
  h.eq ▸ isDouble_exact h.finite

theorem IsExactly.lt_iff {q : ℚ} {x y : Float} (h : IsExactly q x)
    (hy : Scalar.nonFinite? y = none) : x < y ↔ q < exact y := by
  rw [lt_iff_exact_lt h.finite hy, h.eq]

theorem isExactly_of_parts {x : Float} {m : ℕ} {e : ℤ} {hm : 0 < m}
    (h : parts x = .finite .positive m e hm) {q : ℚ} (hq : (m : ℚ) * 2 ^ e = q) :
    IsExactly q x := by
  constructor
  · rw [nonFinite?_eq_none_iff, h]
    exact ⟨rfl, rfl⟩
  · rw [exact_eq_value, h, value_finite]
    exact hq

theorem isExactly_zero : IsExactly 0 Scalar.zero where
  finite := by rw [nonFinite?_eq_none_iff, parts_zero]; exact ⟨rfl, rfl⟩
  eq := by rw [exact_eq_value, parts_zero]; rfl

theorem zero_lt_iff {x : Float} (h : Scalar.nonFinite? x = none) :
    Scalar.zero < x ↔ 0 < exact x :=
  isExactly_zero.lt_iff h

theorem IsExactly.zero_lt {q : ℚ} {x : Float} (h : IsExactly q x) (hq : 0 < q) :
    Scalar.zero < x := by
  rwa [zero_lt_iff h.finite, h.eq]

/-- Doubles are multiples of the smallest one. -/
theorem IsDouble.exists_units {q : ℚ} (h : IsDouble q) : ∃ n : ℤ, q = n * 2 ^ (-1074 : ℤ) :=
  (h.multiple_or_lt (-1074)).resolve_right fun hlow => lt_irrefl _ hlow.1

theorem isDouble_unit : IsDouble (2 ^ (-1074 : ℤ)) := ⟨1, -1074, by norm_num, le_rfl, by norm_num⟩

theorem IsDouble.unit_le_sub {p q : ℚ} (hp : IsDouble p) (hq : IsDouble q) (h : p < q) :
    2 ^ (-1074 : ℤ) ≤ q - p := by
  obtain ⟨n, rfl⟩ := hp.exists_units
  obtain ⟨k, rfl⟩ := hq.exists_units
  have hpos : (0 : ℚ) < 2 ^ (-1074 : ℤ) := by positivity
  have hlt : n < k := by exact_mod_cast lt_of_mul_lt_mul_right h hpos.le
  have hle : (n : ℚ) + 1 ≤ k := by exact_mod_cast hlt
  nlinarith

/-- A difference of doubles is above zero if and only if it is so before it is rounded. -/
theorem RoundsTo.pos_iff {p q : ℚ} {z : Float} (h : RoundsTo (q - p) z) (hp : IsDouble p)
    (hq : IsDouble q) : Scalar.zero < z ↔ p < q := by
  rw [zero_lt_iff h.finite]
  constructor
  · intro hz
    by_contra hle
    have := h.rounds.ge 0 isDouble_zero (by linarith)
    linarith
  · intro hlt
    have hunit := hp.unit_le_sub hq hlt
    have hpos : (0 : ℚ) < 2 ^ (-1074 : ℤ) := by positivity
    exact hpos.trans_le (h.rounds.le _ isDouble_unit hunit)

theorem le_largest {q : ℚ} (h : q ≤ 2 ^ 200) : q ≤ largest := by
  calc q ≤ 2 ^ (200 : ℤ) := h
    _ ≤ 2 ^ (971 : ℤ) := zpow_le_zpow_right₀ (by norm_num) (by norm_num)
    _ ≤ (2 ^ 53 - 1) * 2 ^ (971 : ℤ) := le_mul_of_one_le_left (by positivity) (by norm_num)

/-- The largest double in units of its last bit; half as many units and a half are a double. -/
theorem exists_unit_largest :
    ∃ unit : ℚ, 1 ≤ unit ∧ largest = (2 ^ 53 - 1) * unit ∧ IsDouble (2 ^ 52 * unit) :=
  ⟨2 ^ (971 : ℤ), one_le_zpow₀ (by norm_num) (by norm_num), rfl, 2 ^ 52, 971, by norm_num,
    by norm_num, by norm_num⟩

theorem exact_least {x y : Float} (hx : Scalar.nonFinite? x = none)
    (hy : Scalar.nonFinite? y = none) : Scalar.nonFinite? (Scalar.least x y) = none ∧
      exact (Scalar.least x y) = min (exact x) (exact y) := by
  unfold Scalar.least
  split
  · next h => exact ⟨hy, (min_eq_right ((lt_iff_exact_lt hy hx).1 h).le).symm⟩
  · next h => exact ⟨hx, (min_eq_left (not_lt.1 fun hlt => h ((lt_iff_exact_lt hy hx).2 hlt))).symm⟩

/-- A difference of multiples of one power of two is not rounded, if 53 bits are enough for it. -/
theorem IsDouble.sub_multiple {q : ℚ} (h : IsDouble q) {k g : ℤ} (hg : -1074 ≤ g)
    (hlow : 2 ^ 52 * 2 ^ g ≤ q) (hsmall : |q - k * 2 ^ g| < 2 ^ 53 * 2 ^ g) :
    IsDouble (q - k * 2 ^ g) := by
  have hpos : (0 : ℚ) < 2 ^ g := by positivity
  obtain ⟨n, rfl⟩ | ⟨-, hlt⟩ := h.multiple_or_lt g
  · have hdiff : (n : ℚ) * 2 ^ g - k * 2 ^ g = ((n - k : ℤ) : ℚ) * 2 ^ g := by
      push_cast
      ring
    rw [hdiff, abs_mul, abs_of_pos hpos] at hsmall
    rw [hdiff]
    exact ⟨n - k, g, by exact_mod_cast lt_of_mul_lt_mul_right hsmall hpos.le, hg, rfl⟩
  · exact absurd hlt (not_lt.2 hlow)

/-- A double that is not tiny can be halved. -/
theorem IsDouble.half {q : ℚ} (h : IsDouble q) (hq : 1 / 2 ^ 100 ≤ q) : IsDouble (q / 2) := by
  obtain ⟨n, f, hn, hf, rfl⟩ := h
  refine ⟨n, f - 1, hn, ?_, ?_⟩
  · by_contra hlow
    have hf' : f = -1074 := by omega
    have hn' : (n : ℚ) < 2 ^ 53 := by exact_mod_cast (abs_lt.1 hn).2
    have hsmall : (n : ℚ) * 2 ^ f < 1 / 2 ^ 100 := by
      rw [hf']
      calc (n : ℚ) * 2 ^ (-1074 : ℤ) < 2 ^ 53 * 2 ^ (-1074 : ℤ) :=
            mul_lt_mul_of_pos_right hn' (by positivity)
        _ ≤ 2 ^ 53 * 2 ^ (-153 : ℤ) := by
            gcongr
            · norm_num
            · norm_num
        _ = 1 / 2 ^ 100 := by norm_num
    linarith
  · rw [zpow_sub₀ two_ne_zero]
    ring

section Special

/-- Infinity, or no number. -/
def isSpecial (u : Float.Model.UnpackedFloat) : Bool := u.isNaN || u.isInf

theorem isSpecial_parts_iff {x : Float} :
    isSpecial (parts x) = false ↔ Scalar.nonFinite? x = none := by
  rw [nonFinite?_eq_none_iff, isSpecial, Bool.or_eq_false_iff]

theorem isSpecial_unpack_pack {u : Float.Model.UnpackedFloat} (h : isSpecial u = true) :
    isSpecial (unpack .binary64 (pack .binary64 u)) = true := by
  cases u with
  | infinity s => cases s <;> decide
  | notANumber => decide
  | zero s => cases h
  | finite s m e hm => cases h

theorem isSpecial_sub {u : Float.Model.UnpackedFloat} (h : isSpecial u = true)
    (v : Float.Model.UnpackedFloat) : isSpecial (sub .binary64 u v) = true := by
  cases u with
  | infinity s =>
    cases v with
    | infinity s' => cases s <;> cases s' <;> rfl
    | _ => rfl
  | notANumber => cases v <;> rfl
  | zero s => cases h
  | finite s m e hm => cases h

theorem isSpecial_div {u : Float.Model.UnpackedFloat} (h : isSpecial u = true)
    (v : Float.Model.UnpackedFloat) : isSpecial (div .binary64 u v) = true := by
  cases u with
  | infinity s => cases v <;> rfl
  | notANumber => cases v <;> rfl
  | zero s => cases h
  | finite s m e hm => cases h

/-- What is not finite does not become so by a subtraction or a division. -/
theorem finite_of_sub {x y : Float} (h : Scalar.nonFinite? (x - y) = none) :
    Scalar.nonFinite? x = none := by
  rw [← isSpecial_parts_iff] at h ⊢
  by_contra hx
  exact Bool.false_ne_true (h.symm.trans
    (isSpecial_unpack_pack (isSpecial_sub (Bool.eq_true_of_not_eq_false hx) (parts y))))

theorem finite_of_div {x y : Float} (h : Scalar.nonFinite? (x / y) = none) :
    Scalar.nonFinite? x = none := by
  rw [← isSpecial_parts_iff] at h ⊢
  by_contra hx
  exact Bool.false_ne_true (h.symm.trans
    (isSpecial_unpack_pack (isSpecial_div (Bool.eq_true_of_not_eq_false hx) (parts y))))

end Special

end DeckPress.Number
