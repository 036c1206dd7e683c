import DeckPress.Moment
import DeckPress.Proofs.NumberTexts
import Mathlib.Algebra.Group.Nat.Defs

/-!
# Names of files

The name of a file tells when it was made, to the millisecond and with the offset. Every number in it
is padded to a width of its own, so the name can be taken apart from the front; only the end, the
offset, comes in several lengths, and what follows its minutes tells which. That colons and points
become dashes loses nothing, and a letter in the place of the offset of universal time can be spelled
out again, since no other letter of that kind is in a name.
-/
namespace DeckPress.Moment

open Text

/-! ## Padded numbers -/

section Padded

variable {width m n : Nat} {c : Char} {cs ds : List Char}

theorem isPlainDigit_of_mem_padded (h : c ∈ padded width n) : isPlainDigit c = true := by
  rcases List.mem_append.1 h with hc | hc
  · rw [List.eq_of_mem_replicate hc]
    decide
  · exact isPlainDigit_of_mem_toDigits hc

theorem length_padded (hwidth : 0 < width) (hn : n < 10 ^ width) :
    (padded width n).length = width := by
  have hle := (Nat.length_toDigits_le_iff (by decide) hwidth).2 hn
  rw [padded, List.length_append, List.length_replicate]
  omega

theorem ofDigitChars_padded (width n : Nat) : Nat.ofDigitChars 10 (padded width n) 0 = n := by
  have hzeros (k : Nat) : Nat.ofDigitChars 10 (List.replicate k '0') 0 = 0 := by
    induction k with
    | zero => rfl
    | succ k ih => rw [List.replicate_succ, Nat.ofDigitChars_cons]; exact ih
  rw [padded, Nat.ofDigitChars_append, hzeros, Nat.ofDigitChars_ten_toDigits]

/-- A padded number can be cut off from what follows, whatever that is. -/
theorem padded_append_inj (hwidth : 0 < width) (hm : m < 10 ^ width) (hn : n < 10 ^ width)
    (h : padded width m ++ cs = padded width n ++ ds) : m = n ∧ cs = ds := by
  obtain ⟨hdigits, hrest⟩ := List.append_inj h (by
    rw [length_padded hwidth hm, length_padded hwidth hn])
  refine ⟨?_, hrest⟩
  rw [← ofDigitChars_padded width m, hdigits, ofDigitChars_padded]

/-- A padded number and the mark behind it. -/
theorem padded_append_cons_inj (hwidth : 0 < width) (hm : m < 10 ^ width) (hn : n < 10 ^ width)
    (h : padded width m ++ c :: cs = padded width n ++ c :: ds) : m = n ∧ cs = ds := by
  obtain ⟨hmn, hrest⟩ := padded_append_inj hwidth hm hn h
  exact ⟨hmn, List.tail_eq_of_cons_eq hrest⟩

@[simp] theorem dashed_colon : dashed ':' = '-' := rfl

@[simp] theorem dashed_point : dashed '.' = '-' := rfl

theorem map_dashed_padded (width n : Nat) : (padded width n).map dashed = padded width n := by
  have hkept : ∀ c ∈ padded width n, dashed c = id c := by
    intro c hc
    have hdigit := isPlainDigit_of_mem_padded hc
    have hcolon : c ≠ ':' := by
      rintro rfl
      cases hdigit
    have hpoint : c ≠ '.' := by
      rintro rfl
      cases hdigit
    simp [dashed, hcolon, hpoint]
  rw [List.map_congr_left hkept, List.map_id]

end Padded

/-! ## The letter of universal time -/

/-- A text with the offset of universal time in the place of its letter. -/
def spelledOut (cs : List Char) : List Char :=
  cs.flatMap fun c => if c = 'Z' then ['+', '0', '0', '-', '0', '0'] else [c]

theorem spelledOut_cons (c : Char) (cs : List Char) :
    spelledOut (c :: cs) =
      (if c = 'Z' then ['+', '0', '0', '-', '0', '0'] else [c]) ++ spelledOut cs :=
  List.flatMap_cons

theorem spelledOut_withZulu {cs : List Char} (h : 'Z' ∉ cs) : spelledOut (withZulu cs) = cs := by
  fun_induction withZulu cs with
  | case1 cs ih =>
    have hcs : 'Z' ∉ cs := by simpa using h
    rw [spelledOut_cons, ih hcs]
    rfl
  | case2 c cs _ ih =>
    obtain ⟨hc, hcs⟩ := not_or.1 (mt List.mem_cons.2 h)
    rw [spelledOut_cons, ih hcs, if_neg (Ne.symm hc)]
    rfl
  | case3 => rfl

theorem withZulu_inj {cs ds : List Char} (hcs : 'Z' ∉ cs) (hds : 'Z' ∉ ds)
    (h : withZulu cs = withZulu ds) : cs = ds := by
  rw [← spelledOut_withZulu hcs, h, spelledOut_withZulu hds]

theorem eq_or_mem_of_mem_withZulu {c : Char} {cs : List Char} (h : c ∈ withZulu cs) :
    c = 'Z' ∨ c ∈ cs := by
  fun_induction withZulu cs with
  | case1 cs ih =>
    rcases List.mem_cons.1 h with rfl | h
    · exact .inl rfl
    · exact (ih h).imp_right fun hc => by simp [hc]
  | case2 d cs hne ih =>
    rcases List.mem_cons.1 h with rfl | h
    · exact .inr List.mem_cons_self
    · exact (ih h).imp_right (List.mem_cons_of_mem d)
  | case3 => exact .inr h

/-! ## Offsets -/

/-- The end of an offset, with dashes: seconds and microseconds where they are not zero. -/
def remainder (seconds micros : Nat) : List Char :=
  (if seconds = 0 ∧ micros = 0 then [] else '-' :: padded 2 seconds) ++
    (if micros = 0 then [] else '-' :: padded 6 micros)

/-- How much of the end is there tells how much of it is not zero. -/
theorem remainder_inj {s s' u u' : Nat} (hs : s < 60) (hs' : s' < 60) (hu : u < 1000000)
    (hu' : u' < 1000000) (h : remainder s u = remainder s' u') : s = s' ∧ u = u' := by
  unfold remainder at h
  by_cases hzero : s = 0 ∧ u = 0 <;> by_cases hzero' : s' = 0 ∧ u' = 0
  · omega
  · simp [hzero, hzero'] at h
  · simp [hzero, hzero'] at h
  · rw [if_neg hzero, if_neg hzero', List.cons_append, List.cons_append, List.cons.injEq] at h
    obtain ⟨hseconds, hmicros⟩ := padded_append_inj (by decide) (by omega) (by omega) h.2
    refine ⟨hseconds, ?_⟩
    by_cases hnone : u = 0 <;> by_cases hnone' : u' = 0
    · omega
    · simp [hnone, hnone'] at hmicros
    · simp [hnone, hnone'] at hmicros
    · rw [if_neg hnone, if_neg hnone', ← List.append_nil (padded 6 u),
        ← List.append_nil (padded 6 u')] at hmicros
      exact (padded_append_inj (by decide) hu hu' (List.tail_eq_of_cons_eq hmicros)).1

/-- An offset as it is in a name, before the letter of universal time is put in. -/
theorem map_dashed_offsetChars (offset : Int) :
    (offsetChars offset).map dashed =
      (if offset < 0 then '-' else '+') :: (padded 2 (offset.natAbs / 3600000000) ++
        '-' :: (padded 2 (offset.natAbs / 60000000 % 60) ++
          remainder (offset.natAbs / 1000000 % 60) (offset.natAbs % 1000000))) := by
  have hsign : dashed (if offset < 0 then '-' else '+') = if offset < 0 then '-' else '+' := by
    split <;> rfl
  simp [offsetChars, remainder, hsign, apply_ite (List.map dashed), map_dashed_padded]

/-- Offsets of less than a day are told apart. -/
theorem map_dashed_offsetChars_inj {o o' : Int} (ho : o.natAbs < 86400000000)
    (ho' : o'.natAbs < 86400000000) (h : (offsetChars o).map dashed = (offsetChars o').map dashed) :
    o = o' := by
  rw [map_dashed_offsetChars, map_dashed_offsetChars, List.cons.injEq] at h
  obtain ⟨hsign, h⟩ := h
  obtain ⟨hhours, h⟩ := padded_append_cons_inj (by decide) (by omega) (by omega) h
  obtain ⟨hminutes, h⟩ := padded_append_inj (by decide) (by omega) (by omega) h
  obtain ⟨hseconds, hmicros⟩ := remainder_inj (Nat.mod_lt _ (by decide)) (Nat.mod_lt _ (by decide))
    (Nat.mod_lt _ (by decide)) (Nat.mod_lt _ (by decide)) h
  have habs : o.natAbs = o'.natAbs := by omega
  have hnegative : o < 0 ↔ o' < 0 := by
    by_cases hneg : o < 0 <;> by_cases hneg' : o' < 0 <;> simp [hneg, hneg'] at hsign ⊢
  omega

/-! ## Names -/

/-- The fields are those of a calendar and a clock, and an offset is shorter than a day. -/
structure IsShown (m : Moment) : Prop where
  year : m.year < 10000
  month : m.month ≤ 12
  day : m.day ≤ 31
  hour : m.hour < 24
  minute : m.minute < 60
  second : m.second < 60
  microsecond : m.microsecond < 1000000
  offset : ∀ o ∈ m.offset, o.natAbs < 86400000000

def toMillisecond (m : Moment) : Moment := { m with microsecond := m.microsecond / 1000 * 1000 }

theorem stamp_toMillisecond (m : Moment) : m.toMillisecond.stamp = m.stamp := by
  have hcut : m.microsecond / 1000 * 1000 / 1000 = m.microsecond / 1000 := by omega
  simp only [stamp, chars, toMillisecond, hcut]

theorem map_dashed_chars (m : Moment) :
    m.chars.map dashed =
      padded 4 m.year ++ '-' :: (padded 2 m.month ++ '-' :: (padded 2 m.day ++
        'T' :: (padded 2 m.hour ++ '-' :: (padded 2 m.minute ++ '-' :: (padded 2 m.second ++
          '-' :: (padded 3 (m.microsecond / 1000) ++
            ((m.offset.map offsetChars).getD []).map dashed)))))) := by
  simp [chars, map_dashed_padded, dashed]

theorem map_dashed_chars_inj {m m' : Moment} (hm : m.IsShown) (hm' : m'.IsShown)
    (h : m.chars.map dashed = m'.chars.map dashed) : m.toMillisecond = m'.toMillisecond := by
  obtain ⟨hyear, hmonth, hday, hhour, hminute, hsecond, hmicro, hoffset⟩ := hm
  obtain ⟨hyear', hmonth', hday', hhour', hminute', hsecond', hmicro', hoffset'⟩ := hm'
  rw [map_dashed_chars, map_dashed_chars] at h
  obtain ⟨hy, h⟩ := padded_append_cons_inj (by decide) (by omega) (by omega) h
  obtain ⟨hmo, h⟩ := padded_append_cons_inj (by decide) (by omega) (by omega) h
  obtain ⟨hd, h⟩ := padded_append_cons_inj (by decide) (by omega) (by omega) h
  obtain ⟨hh, h⟩ := padded_append_cons_inj (by decide) (by omega) (by omega) h
  obtain ⟨hmi, h⟩ := padded_append_cons_inj (by decide) (by omega) (by omega) h
  obtain ⟨hs, h⟩ := padded_append_cons_inj (by decide) (by omega) (by omega) h
  obtain ⟨hms, h⟩ := padded_append_inj (by decide) (by omega) (by omega) h
  have ho : m.offset = m'.offset := by
    cases hoff : m.offset with
    | none =>
      cases hoff' : m'.offset with
      | none => rfl
      | some o' => simp [hoff, hoff', offsetChars] at h
    | some o =>
      cases hoff' : m'.offset with
      | none => simp [hoff, hoff', offsetChars] at h
      | some o' =>
        rw [hoff, hoff'] at h
        exact congrArg some (map_dashed_offsetChars_inj (hoffset o hoff) (hoffset' o' hoff') h)
  simp only [toMillisecond, hy, hmo, hd, hh, hmi, hs, hms, ho]

/-- What a name holds before the letter of universal time is put in. -/
def IsPlain (c : Char) : Prop := isPlainDigit c = true ∨ c ∈ ['T', '+', '-']

theorem isPlain_of_mem_padded (width n : Nat) : ∀ c ∈ padded width n, IsPlain c :=
  fun _ hc => .inl (isPlainDigit_of_mem_padded hc)

theorem isPlain_of_mem_offset (offset : Int) : ∀ c ∈ (offsetChars offset).map dashed, IsPlain c := by
  have hsign : IsPlain (if offset < 0 then '-' else '+') := by split <;> exact .inr (by decide)
  have hdash : IsPlain '-' := .inr (by decide)
  have hremainder (seconds micros : Nat) : ∀ c ∈ remainder seconds micros, IsPlain c := by
    refine List.forall_mem_append.2 ⟨?_, ?_⟩
    · split
      · exact List.forall_mem_nil _
      · exact List.forall_mem_cons.2 ⟨hdash, isPlain_of_mem_padded _ _⟩
    · split
      · exact List.forall_mem_nil _
      · exact List.forall_mem_cons.2 ⟨hdash, isPlain_of_mem_padded _ _⟩
  rw [map_dashed_offsetChars]
  simp only [List.forall_mem_append, List.forall_mem_cons]
  exact ⟨hsign, isPlain_of_mem_padded _ _, hdash, isPlain_of_mem_padded _ _, hremainder _ _⟩

theorem isPlain_of_mem_chars (m : Moment) : ∀ c ∈ m.chars.map dashed, IsPlain c := by
  have hmark : IsPlain 'T' := .inr (by decide)
  have hdash : IsPlain '-' := .inr (by decide)
  have hoffset : ∀ c ∈ ((m.offset.map offsetChars).getD []).map dashed, IsPlain c := by
    cases m.offset with
    | none => exact List.forall_mem_nil _
    | some o => exact isPlain_of_mem_offset o
  rw [map_dashed_chars]
  simp only [List.forall_mem_append, List.forall_mem_cons]
  exact ⟨isPlain_of_mem_padded _ _, hdash, isPlain_of_mem_padded _ _, hdash,
    isPlain_of_mem_padded _ _, hmark, isPlain_of_mem_padded _ _, hdash, isPlain_of_mem_padded _ _,
    hdash, isPlain_of_mem_padded _ _, hdash, isPlain_of_mem_padded _ _, hoffset⟩

theorem zulu_not_mem_chars (m : Moment) : 'Z' ∉ m.chars.map dashed := by
  intro h
  rcases isPlain_of_mem_chars m 'Z' h with hdigit | hmark
  · cases hdigit
  · revert hmark
    decide

theorem stamp_inj {m m' : Moment} (hm : m.IsShown) (hm' : m'.IsShown) (h : m.stamp = m'.stamp) :
    m.toMillisecond = m'.toMillisecond :=
  map_dashed_chars_inj hm hm' (withZulu_inj (zulu_not_mem_chars m) (zulu_not_mem_chars m') h)

/-- A name tells its moment to the millisecond, with the offset, and between what is put before and
after there are only digits and four other characters. -/
theorem fileName_tells_moment (m : Moment) (before after : String) :
    (∃ stamp : String, m.fileName before after = before ++ "_" ++ stamp ++ after ∧
        ∀ c ∈ stamp.toList, isPlainDigit c = true ∨ c ∈ ['T', 'Z', '+', '-']) ∧
      ∀ m' : Moment, m.IsShown → m'.IsShown →
        (m.fileName before after = m'.fileName before after ↔
          m.toMillisecond = m'.toMillisecond) := by
  refine ⟨⟨String.ofList m.stamp, rfl, fun c hc => ?_⟩, fun m' hm hm' => ⟨fun h => ?_, fun h => ?_⟩⟩
  · rw [String.toList_ofList] at hc
    rcases eq_or_mem_of_mem_withZulu hc with rfl | hplain
    · exact .inr (by decide)
    · refine (isPlain_of_mem_chars m c hplain).imp_right fun hmark => ?_
      revert hmark
      simp +contextual [or_imp]
  · refine stamp_inj hm hm' ?_
    simpa [fileName, ← String.toList_inj] using h
  · rw [fileName, ← stamp_toMillisecond, h, stamp_toMillisecond, fileName]

def aheadClock : Moment :=
  { year := 2024, month := 3, day := 30, hour := 12, minute := 5, second := 9,
    microsecond := 123456, offset := some 30000000 }

/-- A later tick of the same millisecond has the same name, and the same time without an offset has
another one. -/
theorem fileName_tells_moment_aheadClock :
    aheadClock.fileName "deck" ".pptx" = "deck_2024-03-30T12-05-09-123Z-30.pptx" ∧
      aheadClock.fileName "deck" ".pptx" =
        { aheadClock with microsecond := 123999 }.fileName "deck" ".pptx" ∧
      aheadClock.fileName "deck" ".pptx" ≠
        { aheadClock with offset := none }.fileName "deck" ".pptx" := by
  have hshown : aheadClock.IsShown := by constructor <;> decide
  have hlater : { aheadClock with microsecond := 123999 }.IsShown := by constructor <;> decide
  have hnaive : { aheadClock with offset := none }.IsShown := by constructor <;> decide
  obtain ⟨-, hname⟩ := fileName_tells_moment aheadClock "deck" ".pptx"
  exact ⟨by decide +kernel, (hname _ hshown hlater).2 (by decide),
    mt (hname _ hshown hnaive).1 (by decide)⟩

end DeckPress.Moment
