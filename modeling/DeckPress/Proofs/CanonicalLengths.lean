import DeckPress.Deck.Printer
import DeckPress.Proofs.AcceptedDecks
import Mathlib.Data.List.TakeDrop
import Mathlib.Data.List.TakeWhile

/-!
# Canonical lengths

A length that is accepted is kept in a form that is accepted again, as the same length: inches as
the double that they are, a share as its digits and the percent sign with nothing around them. Such
a text spells no number, since there is no percent sign in a numeral, and reading it stops nowhere
before its end.
-/
namespace DeckPress

open Validation

namespace Text

variable {p : Char → Bool} {cs : List Char} {c : Char}

theorem mem_dropWhile (h : c ∈ cs) (hc : p c = false) : c ∈ cs.dropWhile p := by
  rw [← List.takeWhile_append_dropWhile (p := p) (l := cs)] at h
  rcases List.mem_append.1 h with h | h
  · have hp := List.mem_takeWhile_imp h
    rw [hc] at hp
    cases hp
  · exact h

theorem mem_trimBy (h : c ∈ cs) (hc : p c = false) : c ∈ trimBy p cs :=
  List.mem_reverse.2 (mem_dropWhile (List.mem_reverse.2 (mem_dropWhile h hc)) hc)

theorem trimBy_eq_self (hfirst : ∀ c ∈ cs.head?, p c = false)
    (hlast : ∀ c ∈ cs.getLast?, p c = false) : trimBy p cs = cs := by
  have hdrop {ds : List Char} (h : ∀ c ∈ ds.head?, p c = false) : ds.dropWhile p = ds := by
    cases ds with
    | nil => rfl
    | cons d ds => rw [List.dropWhile_cons_of_neg (by simp [h d rfl])]
  unfold trimBy
  rw [hdrop hfirst, hdrop (by rwa [List.head?_reverse]), List.reverse_reverse]

/-- A row of characters that pass a test is cut off where it ends. -/
theorem span_append {ds : List Char} (hcs : ∀ c ∈ cs, p c = true)
    (hds : ∀ c ∈ ds.head?, p c = false) : (cs ++ ds).span p = (cs, ds) := by
  rw [List.span_eq_takeWhile_dropWhile, List.takeWhile_append_of_pos hcs,
    List.dropWhile_append_of_pos hcs]
  cases ds with
  | nil => simp
  | cons d ds => simp [hds d rfl]

theorem span_eq_self (hcs : ∀ c ∈ cs, p c = true) : cs.span p = (cs, []) := by
  rw [List.span_eq_takeWhile_dropWhile, List.takeWhile_eq_self_iff.2 hcs,
    List.dropWhile_eq_nil_iff.2 hcs]

theorem digitValue?_eq_none_of_isBlank (h : isBlank c = true) : digitValue? c = none := by
  have hrange (low width : Nat) (hlow : low ≤ c.toNat) (hhigh : c.toNat < low + width)
      (hnone : ∀ i < width, digitValue? (Char.ofNat (low + i)) = none) : digitValue? c = none := by
    have hc := hnone (c.toNat - low) (by omega)
    rwa [Nat.add_sub_of_le hlow, Char.ofNat_toNat] at hc
  simp only [isBlank, Bool.or_eq_true, Bool.and_eq_true, decide_eq_true_eq, beq_iff_eq] at h
  rcases h with (((((((((h | h) | h) | h) | h) | h) | h) | h) | h) | h) | h
  · exact hrange 0x09 5 (by omega) (by omega) (by decide)
  · exact hrange 0x1C 5 (by omega) (by omega) (by decide)
  · exact hrange 0x85 1 (by omega) (by omega) (by decide)
  · exact hrange 0xA0 1 (by omega) (by omega) (by decide)
  · exact hrange 0x1680 1 (by omega) (by omega) (by decide)
  · exact hrange 0x2000 11 (by omega) (by omega) (by decide)
  · exact hrange 0x2028 1 (by omega) (by omega) (by decide)
  · exact hrange 0x2029 1 (by omega) (by omega) (by decide)
  · exact hrange 0x202F 1 (by omega) (by omega) (by decide)
  · exact hrange 0x205F 1 (by omega) (by omega) (by decide)
  · exact hrange 0x3000 1 (by omega) (by omega) (by decide)

theorem isBlank_eq_false_of_isDigit (h : isDigit c = true) : isBlank c = false := by
  rw [Bool.eq_false_iff]
  intro hblank
  rw [isDigit, digitValue?_eq_none_of_isBlank hblank] at h
  cases h

end Text

namespace Number

open Numeral Text

variable {cs ds : List Char}

/-- A percent sign stands after the sign of a numeral, if anywhere. -/
theorem percentSign_mem_signed (h : '%' ∈ cs) : '%' ∈ (signed cs).2 := by
  unfold signed
  split
  · exact (List.mem_cons.1 h).resolve_left (by decide)
  · exact (List.mem_cons.1 h).resolve_left (by decide)
  · exact h

theorem power?_eq_none (h : '%' ∈ cs) : power? cs = none := by
  cases cs with
  | nil => cases h
  | cons c cs =>
    rw [power?]
    split
    · next he =>
      have hc : '%' ∈ cs := by
        refine (List.mem_cons.1 h).resolve_left ?_
        rintro rfl
        revert he
        simp
      have hdigits : (signed cs).2.all isPlainDigit = false :=
        List.all_eq_false.2 ⟨'%', percentSign_mem_signed hc, by decide⟩
      simp [hdigits]
    · rfl

theorem percentSign_mem_dropWhile (h : '%' ∈ cs) : '%' ∈ cs.dropWhile isPlainDigit :=
  mem_dropWhile h (by decide)

theorem unsigned?_eq_none {negative : Bool} (h : '%' ∈ cs) : unsigned? negative cs = none := by
  have hrest := percentSign_mem_dropWhile h
  unfold unsigned?
  simp only [List.span_eq_takeWhile_dropWhile]
  split
  · next after heq =>
    rw [heq] at hrest
    have hafter := percentSign_mem_dropWhile ((List.mem_cons.1 hrest).resolve_left (by decide))
    simp [power?_eq_none hafter]
  · simp [power?_eq_none hrest]

theorem parse?_eq_none (h : '%' ∈ cs) : parse? cs = none := by
  have hbody := percentSign_mem_signed h
  have hword {w : String} (hw : '%' ∉ w.toList) :
      String.ofList ((signed cs).2.map Char.toLower) ≠ w := by
    rintro rfl
    rw [String.toList_ofList] at hw
    exact hw (List.mem_map.2 ⟨'%', hbody, by decide⟩)
  unfold parse?
  dsimp only
  split
  · next heq => exact absurd heq (hword (by decide))
  · next heq => exact absurd heq (hword (by decide))
  · next heq => exact absurd heq (hword (by decide))
  · exact unsigned?_eq_none hbody

theorem withoutSeparators?_eq_some {b : Option Char} (h : withoutSeparators? b cs = some ds) :
    ds = cs.filter (· != '_') := by
  fun_induction withoutSeparators? b cs generalizing ds with
  | case1 =>
    cases h
    rfl
  | case2 b c cs hdigits ih =>
    obtain ⟨es, hes, rfl⟩ := Option.map_eq_some_iff.1 h
    have hc : c ≠ '_' := by
      rintro rfl
      simp [show isPlainDigit '_' = false by decide] at hdigits
    simp [hc, ih hes]
  | case3 => cases h
  | case4 => cases h
  | case5 b c cs hc ih =>
    obtain ⟨es, hes, rfl⟩ := Option.map_eq_some_iff.1 h
    simp [show c ≠ '_' from hc, ih hes]

/-- A text with a percent sign in it spells no number. -/
theorem readNumeral_eq_none (h : '%' ∈ cs) : readNumeral cs = none := by
  have hplain : '%' ∈ (trimBy isMargin cs).map plainDigit :=
    List.mem_map.2 ⟨'%', mem_trimBy h (by decide), by decide⟩
  unfold readNumeral
  rw [Option.bind_eq_bind, Option.bind_eq_none_iff]
  intro ds hds
  rw [withoutSeparators?_eq_some hds]
  exact parse?_eq_none (List.mem_filter.2 ⟨hplain, by decide⟩)

end Number

namespace Percent

open Text

/-- The digits of a share that has been read: some before the point, and no other characters. -/
structure IsWritten (p : Percent) : Prop where
  whole_ne_nil : p.whole ≠ []
  whole : ∀ c ∈ p.whole, isDigit c = true
  fraction : ∀ c ∈ p.fraction, isDigit c = true

theorem readUnpadded?_isWritten {cs : List Char} {p : Percent} (h : readUnpadded? cs = some p) :
    p.IsWritten := by
  have hdigits {ds : List Char} : ∀ c ∈ ds.takeWhile isDigit, isDigit c = true :=
    fun c hc => List.mem_takeWhile_imp hc
  simp only [readUnpadded?, List.span_eq_takeWhile_dropWhile, Option.ite_none_right_eq_some,
    Option.some.injEq, Bool.and_eq_true, Bool.not_eq_true', List.isEmpty_eq_false_iff] at h
  obtain ⟨⟨hwhole, -⟩, rfl⟩ := h
  refine ⟨hwhole, hdigits, ?_⟩
  dsimp only
  split
  · split
    · simp
    · exact hdigits
  · simp

def number (p : Percent) : List Char :=
  p.whole ++ (if p.fraction.isEmpty then [] else '.' :: p.fraction)

theorem chars_eq (p : Percent) : p.chars = p.number ++ ['%'] := rfl

/-- Reading goes over the blanks in front of the percent sign and stops at it. -/
theorem IsWritten.readUnpadded?_append {p : Percent} (h : p.IsWritten) {bs : List Char}
    (hbs : ∀ c ∈ bs, isBlank c = true) : readUnpadded? (p.number ++ (bs ++ ['%'])) = some p := by
  obtain ⟨whole, fraction⟩ := p
  have hne : whole.isEmpty = false := by simpa using h.whole_ne_nil
  have hsign : (bs ++ ['%']).dropWhile isBlank = ['%'] := by
    rw [List.dropWhile_append_of_pos hbs]
    decide
  have hend : ∀ c ∈ (bs ++ ['%']).head?, isDigit c = false ∧ c ≠ '.' := by
    cases bs with
    | nil => simpa using (by decide : isDigit '%' = false)
    | cons b bs =>
      have hb : isBlank b = true := hbs b List.mem_cons_self
      rintro _ ⟨⟩
      refine ⟨by rw [isDigit, digitValue?_eq_none_of_isBlank hb, Option.isSome_none], ?_⟩
      rintro rfl
      cases hb
  cases fraction with
  | nil =>
    have hspan : (whole ++ (bs ++ ['%'])).span isDigit = (whole, bs ++ ['%']) :=
      span_append h.whole fun c hc => (hend c hc).1
    have hnumber : number ⟨whole, []⟩ = whole := by simp [number]
    rw [hnumber, readUnpadded?, hspan]
    dsimp only
    split
    · next heq => exact absurd rfl (hend '.' (by simp [heq])).2
    · simp [hne, hsign]
  | cons c cs =>
    have hspan : (whole ++ '.' :: (c :: cs ++ (bs ++ ['%']))).span isDigit =
        (whole, '.' :: (c :: cs ++ (bs ++ ['%']))) :=
      span_append h.whole (by simpa using (by decide : isDigit '.' = false))
    have htail : (c :: cs ++ (bs ++ ['%'])).span isDigit = (c :: cs, bs ++ ['%']) :=
      span_append h.fraction fun c hc => (hend c hc).1
    have hnumber : number ⟨whole, c :: cs⟩ ++ (bs ++ ['%']) =
        whole ++ '.' :: (c :: cs ++ (bs ++ ['%'])) := by simp [number]
    rw [hnumber, readUnpadded?, hspan]
    dsimp only
    simp only [htail]
    simp [hne, hsign]

theorem percentSign_mem_chars (p : Percent) : '%' ∈ p.chars := by
  simp [chars]

theorem IsWritten.trim_append {p : Percent} (h : p.IsWritten) (bs : List Char) :
    trim (p.number ++ (bs ++ ['%'])) = p.number ++ (bs ++ ['%']) := by
  refine trimBy_eq_self ?_ ?_
  · intro c hc
    obtain ⟨d, ds, hwhole⟩ := List.exists_cons_of_ne_nil h.whole_ne_nil
    simp only [number, hwhole, List.cons_append, List.head?_cons, Option.mem_some_iff] at hc
    subst hc
    exact isBlank_eq_false_of_isDigit (h.whole _ (by simp [hwhole]))
  · intro c hc
    simp only [List.getLast?_append, List.getLast?_singleton, Option.some_or,
      Option.mem_some_iff] at hc
    subst hc
    decide

theorem IsWritten.read?_text {p : Percent} (h : p.IsWritten) : read? p.text = some p := by
  have htrim : trim p.chars = p.chars := h.trim_append []
  have hread : readUnpadded? p.chars = some p := h.readUnpadded?_append (List.forall_mem_nil _)
  rw [read?, text, String.toList_ofList, htrim, hread]

theorem read?_isWritten {s : String} {p : Percent} (h : read? s = some p) : p.IsWritten :=
  readUnpadded?_isWritten h

end Percent

namespace Length

theorem checkPercent_eq_ok {α : Type} [Scalar α] {positive : Bool} {p : Percent} {l : Length α}
    (h : checkPercent positive p = .ok l) : l = .percent p := by
  unfold checkPercent at h
  split at h
  · cases h
  · cases h
    rfl

/-- A text that is accepted stands for inches that are accepted themselves or for a share. -/
theorem checkText_eq_ok {positive : Bool} {s : String} {l : Length Float}
    (h : checkText positive s = .ok l) :
    (∃ x, checkInches positive x = .ok l) ∨
      ∃ p : Percent, p.IsWritten ∧ checkPercent positive p = .ok l := by
  unfold checkText at h
  split at h
  · exact .inl ⟨_, h⟩
  · split at h
    · next p hp => exact .inr ⟨p, Percent.read?_isWritten hp, h⟩
    · cases h

theorem checkText_text {positive : Bool} {p : Percent} (h : p.IsWritten) :
    checkText positive p.text = checkPercent positive p := by
  have hnumeral : Number.readNumeral p.text.toList = none := by
    rw [Percent.text, String.toList_ofList]
    exact Number.readNumeral_eq_none p.percentSign_mem_chars
  rw [checkText, hnumeral, h.read?_text]

end Length

namespace Validation

/-- What a length can be accepted from: inches that are accepted, or a share that is. -/
theorem length_eq_valid {o : Origin} {positive : Bool} {v : Json} {l : Length Float}
    (h : length o positive v = .valid l) :
    (∃ x, Length.checkInches positive x = .ok l) ∨
      ∃ p : Percent, p.IsWritten ∧ Length.checkPercent positive p = .ok l := by
  unfold length at h
  split at h
  · exact .inl ⟨_, ofLength_eq_valid.1 h⟩
  · exact .inl ⟨_, ofLength_eq_valid.1 h⟩
  · exact Length.checkText_eq_ok (ofLength_eq_valid.1 h)
  · split at h
    · exact .inl ⟨_, ofLength_eq_valid.1 h⟩
    · exact .inl ⟨_, ofLength_eq_valid.1 h⟩
    · cases h
  · cases h

/-- An accepted length is accepted again in the form in which it is written, and is the same. -/
theorem length_toJson {o o' : Origin} {positive : Bool} {v : Json} {l : Length Float}
    (h : length o positive v = .valid l) : length o' positive l.toJson = .valid l := by
  rcases length_eq_valid h with ⟨x, hx⟩ | ⟨p, hp, hshare⟩
  · obtain ⟨-, -, rfl⟩ := Length.checkInches_eq_ok.1 hx
    exact ofLength_eq_valid.2 hx
  · obtain rfl := Length.checkPercent_eq_ok hshare
    exact ofLength_eq_valid.2 ((Length.checkText_text hp).trans hshare)

end Validation

end DeckPress
