import DeckPress.Proofs.Words

/-!
# Texts of shares

The digits of a share spell a number, also where they are not those of ASCII, and it is the number
of the share. Blanks around a share and in front of its percent sign make no other share of it.
-/
namespace DeckPress

namespace Text

variable {c : Char} {cs : List Char} {n : Nat}

theorem digitValue?_lt_ten (h : digitValue? c = some n) : n < 10 := by
  unfold digitValue? at h
  split at h
  · split at h
    · next hc =>
      have hnine : c.toNat ≤ '9'.toNat := hc.2
      have : '9'.toNat = 0x39 := rfl
      cases h
      omega
    · cases h
  · obtain ⟨z, hz, rfl⟩ := Option.map_eq_some_iff.1 h
    have hrange := List.find?_some hz
    simp only [Bool.and_eq_true, decide_eq_true_eq] at hrange
    omega

theorem digitValue?_plainDigit (h : isDigit c = true) :
    isPlainDigit (plainDigit c) = true ∧ digitValue? (plainDigit c) = digitValue? c := by
  have hplain : ∀ n < 10, isPlainDigit (Char.ofNat (0x30 + n)) = true ∧
      digitValue? (Char.ofNat (0x30 + n)) = some n := by decide
  obtain ⟨n, hn⟩ := Option.isSome_iff_exists.1 h
  rw [plainDigit, hn]
  exact hplain n (digitValue?_lt_ten hn)

theorem digitsValue_map_plainDigit (h : ∀ c ∈ cs, isDigit c = true) :
    digitsValue (cs.map plainDigit) = digitsValue cs := by
  unfold digitsValue
  rw [List.foldl_map]
  refine List.foldl_ext _ _ _ fun n c hc => ?_
  rw [(digitValue?_plainDigit (h c hc)).2]

theorem toLower_of_isPlainDigit (h : isPlainDigit c = true) : c.toLower = c := by
  simp only [isPlainDigit, Bool.and_eq_true, decide_eq_true_eq] at h
  have hupper : ¬ 'A'.val ≤ c.val := fun hA => absurd (UInt32.le_trans hA h.2) (by decide)
  exact dif_neg fun hc => hupper hc.1

end Text

namespace Number

open Numeral Text

variable {cs ds : List Char}

theorem withoutSeparators?_eq_self (h : '_' ∉ cs) (b : Option Char) :
    withoutSeparators? b cs = some cs := by
  induction cs generalizing b with
  | nil => rw [withoutSeparators?]
  | cons c cs ih =>
    obtain ⟨hc, hcs⟩ := not_or.1 (mt List.mem_cons.2 h)
    rw [withoutSeparators?, ih hcs]
    · rfl
    · exact Ne.symm hc

theorem unsigned?_digits (negative : Bool) (hne : cs ≠ [])
    (hcs : ∀ c ∈ cs, isPlainDigit c = true) (hds : ∀ c ∈ ds, isPlainDigit c = true) :
    unsigned? negative (cs ++ (if ds.isEmpty then [] else '.' :: ds)) =
      some (.finite negative (digitsValue (cs ++ ds)) (-ds.length)) := by
  have hempty : cs.isEmpty = false := by simpa using hne
  cases ds with
  | nil =>
    have hwhole : cs ++ (if ([] : List Char).isEmpty then [] else ['.']) = cs := by simp
    rw [hwhole, unsigned?, span_eq_self hcs]
    simp [hempty, power?]
  | cons d ds =>
    have hspan : (cs ++ '.' :: d :: ds).span isPlainDigit = (cs, '.' :: d :: ds) :=
      span_append hcs (by simpa using (by decide : isPlainDigit '.' = false))
    have hparted : cs ++ (if (d :: ds).isEmpty then [] else '.' :: d :: ds) =
        cs ++ '.' :: d :: ds := by simp
    rw [hparted, unsigned?, hspan]
    simp only [span_eq_self hds]
    simp [hempty, power?]

/-- A text that begins with a digit has no sign and is no word. -/
theorem parse?_of_isPlainDigit {c : Char} (hc : isPlainDigit c = true) (cs : List Char) :
    parse? (c :: cs) = unsigned? false (c :: cs) := by
  have hsigned : Numeral.signed (c :: cs) = (false, c :: cs) := by
    unfold Numeral.signed
    split
    · next heq =>
      cases heq
      cases hc
    · next heq =>
      cases heq
      cases hc
    · rfl
  have hword {w : String} (hw : w.toList.head?.any isPlainDigit = false) :
      String.ofList ((c :: cs).map Char.toLower) ≠ w := by
    rintro rfl
    rw [String.toList_ofList, List.map_cons, toLower_of_isPlainDigit hc] at hw
    cases hc.symm.trans hw
  unfold parse?
  rw [hsigned]
  dsimp only
  split
  · next heq => exact absurd heq (hword (by decide))
  · next heq => exact absurd heq (hword (by decide))
  · next heq => exact absurd heq (hword (by decide))
  · rfl

end Number

namespace Percent

open Number Number.Numeral Text

theorem IsWritten.mem_number {p : Percent} (h : p.IsWritten) {c : Char} (hc : c ∈ p.number) :
    isDigit c = true ∨ c = '.' := by
  rcases List.mem_append.1 hc with hc | hc
  · exact .inl (h.whole c hc)
  · split at hc
    · cases hc
    · rcases List.mem_cons.1 hc with rfl | hc
      · exact .inr rfl
      · exact .inl (h.fraction c hc)

theorem IsWritten.trimBy_number {p : Percent} (h : p.IsWritten) :
    trimBy isMargin p.number = p.number := by
  have hmargin : ∀ c ∈ p.number, isMargin c = false := by
    intro c hc
    rcases h.mem_number hc with hdigit | rfl
    · simp [isMargin, isBlank_eq_false_of_isDigit hdigit]
    · decide
  exact trimBy_eq_self (fun c hc => hmargin c (List.mem_of_head? hc))
    fun c hc => hmargin c (List.mem_of_getLast? hc)

theorem map_plainDigit_number (p : Percent) :
    p.number.map plainDigit = number ⟨p.whole.map plainDigit, p.fraction.map plainDigit⟩ := by
  have hpoint : plainDigit '.' = '.' := by decide
  simp [number, apply_ite (List.map plainDigit), hpoint]

/-- There are no separators between the digits of a share. -/
theorem IsWritten.separator_not_mem {p : Percent} (h : p.IsWritten) :
    '_' ∉ p.number.map plainDigit := by
  intro hmem
  obtain ⟨c, hc, hplain⟩ := List.mem_map.1 hmem
  rcases h.mem_number hc with hdigit | rfl
  · have hunderscore := (digitValue?_plainDigit hdigit).1
    rw [hplain] at hunderscore
    cases hunderscore
  · cases hplain

/-- The number of a written share spells a numeral: what the share counts. -/
theorem IsWritten.readNumeral_number {p : Percent} (h : p.IsWritten) :
    readNumeral p.number =
      some (.finite false (digitsValue (p.whole ++ p.fraction)) (-p.fraction.length)) := by
  have hplain {cs : List Char} (hcs : ∀ c ∈ cs, isDigit c = true) :
      ∀ c ∈ cs.map plainDigit, isPlainDigit c = true :=
    List.forall_mem_map.2 fun c hc => (digitValue?_plainDigit (hcs c hc)).1
  have hread : parse? (p.number.map plainDigit) = unsigned? false (p.number.map plainDigit) := by
    obtain ⟨c, cs, hwhole⟩ := List.exists_cons_of_ne_nil h.whole_ne_nil
    rw [map_plainDigit_number, hwhole]
    exact parse?_of_isPlainDigit (hplain h.whole _ (by simp [hwhole])) _
  have hvalue : digitsValue (p.whole.map plainDigit ++ p.fraction.map plainDigit) =
      digitsValue (p.whole ++ p.fraction) := by
    rw [← List.map_append]
    exact digitsValue_map_plainDigit (List.forall_mem_append.2 ⟨h.whole, h.fraction⟩)
  rw [readNumeral, h.trimBy_number, withoutSeparators?_eq_self h.separator_not_mem]
  change parse? (p.number.map plainDigit) = _
  rw [hread, map_plainDigit_number, number, unsigned?_digits false (by simpa using h.whole_ne_nil)
    (hplain h.whole) (hplain h.fraction), hvalue, List.length_map]

theorem IsWritten.toFloat_number {p : Percent} (h : p.IsWritten) :
    ∃ n, readNumeral p.number = some n ∧ n.toFloat = p.value :=
  ⟨_, h.readNumeral_number, rfl⟩

theorem IsWritten.isBlank_text {p : Percent} (h : p.IsWritten) :
    ∀ c ∈ p.text.toList, isBlank c = false := by
  intro c hc
  rw [text, String.toList_ofList, chars_eq, List.mem_append, List.mem_singleton] at hc
  rcases hc with hc | rfl
  · rcases h.mem_number hc with hdigit | rfl
    · exact isBlank_eq_false_of_isDigit hdigit
    · decide
  · decide

/-- The text of a share with more texts around it and in front of its percent sign. -/
def padded (p : Percent) (before between after : String) : String :=
  before ++ String.ofList p.number ++ between ++ "%" ++ after

theorem IsWritten.read?_padded {p : Percent} (h : p.IsWritten) {before between after : String}
    (hbefore : ∀ c ∈ before.toList, isBlank c = true)
    (hbetween : ∀ c ∈ between.toList, isBlank c = true)
    (hafter : ∀ c ∈ after.toList, isBlank c = true) :
    read? (p.padded before between after) = some p := by
  have hchars : (p.padded before between after).toList =
      before.toList ++ (p.number ++ (between.toList ++ ['%']) ++ after.toList) := by
    simp [padded]
  rw [read?, hchars, trim_blank_append hbefore, trim_append_of_blank hafter, h.trim_append,
    h.readUnpadded?_append hbetween]

theorem percentSign_mem_padded (p : Percent) (before between after : String) :
    '%' ∈ (p.padded before between after).toList := by
  simp [padded]

end Percent

end DeckPress
