import DeckPress.Json.Printer
import DeckPress.Json.Reply
import DeckPress.Proofs.Attempt
import Mathlib.Data.List.TakeWhile

/-!
# Numbers in replies

A number stands in front of what ends it: nothing, a comma, or a closing bracket. Its reader takes
digits as long as there are some, so it takes the same number with the same characters whatever the
end is. And a finite number is written with digits, signs, points and the letter of its power alone.
-/
namespace DeckPress

/-- A number in base ten is written with plain digits. -/
theorem Text.isPlainDigit_of_mem_toDigits {c : Char} {n : Nat} (h : c ∈ Nat.toDigits 10 n) :
    isPlainDigit c = true := by
  have hdigit := Nat.isDigit_of_mem_toDigits (by decide) (by decide) h
  simp only [Char.isDigit, isPlainDigit, Bool.and_eq_true, decide_eq_true_eq] at hdigit ⊢
  exact hdigit

namespace Json

open Number Text

/-! ## Characters of written numbers -/

/-- The characters that finite numbers are written with. -/
def isNumeric (c : Char) : Bool :=
  isPlainDigit c || c == '-' || c == '+' || c == '.' || c == 'e'

/-- A text is written with the characters of finite numbers. -/
def AreNumeric (cs : List Char) : Prop := ∀ c ∈ cs, isNumeric c = true

theorem AreNumeric.append {cs ds : List Char} (h : AreNumeric cs) (h' : AreNumeric ds) :
    AreNumeric (cs ++ ds) := by
  intro c hc
  rcases List.mem_append.1 hc with hc | hc
  · exact h c hc
  · exact h' c hc

theorem AreNumeric.cons {c : Char} {cs : List Char} (hc : isNumeric c = true) (h : AreNumeric cs) :
    AreNumeric (c :: cs) := List.forall_mem_cons.2 ⟨hc, h⟩

theorem areNumeric_toDigits (n : Nat) : AreNumeric (Nat.toDigits 10 n) := by
  intro c hc
  simp [isNumeric, isPlainDigit_of_mem_toDigits hc]

theorem areNumeric_significant (d : Decimal) : AreNumeric (Format.significant d).1 := by
  intro c hc
  have hmem := List.mem_reverse.1 ((List.dropWhile_suffix _).subset (List.mem_reverse.1 hc))
  exact areNumeric_toDigits d.digits c hmem

theorem areNumeric_zeros (n : Nat) : AreNumeric (List.replicate n '0') := by
  intro c hc
  rw [List.eq_of_mem_replicate hc]
  decide

theorem areNumeric_positional {digits : List Char} (h : AreNumeric digits) (e : Int) :
    AreNumeric (Format.positional digits e) := by
  unfold Format.positional
  split
  · exact .cons (by decide) (.cons (by decide) ((areNumeric_zeros _).append h))
  · have hrest : AreNumeric (if (digits.drop (e.toNat + 1)).isEmpty then ['0']
        else digits.drop (e.toNat + 1)) := by
      split
      · exact .cons (by decide) (by simp [AreNumeric])
      · exact fun c hc => h c (List.mem_of_mem_drop hc)
    have hwhole : AreNumeric (digits.take (e.toNat + 1)) := fun c hc => h c (List.mem_of_mem_take hc)
    exact (hwhole.append (areNumeric_zeros _)).append (.cons (by decide) hrest)

theorem areNumeric_scientific {digits : List Char} (h : AreNumeric digits) (width : Nat) (e : Int) :
    AreNumeric (Format.scientific width digits e) := by
  have hrest : AreNumeric (if (digits.drop 1).isEmpty then [] else '.' :: digits.drop 1) := by
    split
    · simp [AreNumeric]
    · exact .cons (by decide) fun c hc => h c (List.mem_of_mem_drop hc)
  have hwhole : AreNumeric (digits.take 1) := fun c hc => h c (List.mem_of_mem_take hc)
  have hsign : isNumeric (if e < 0 then '-' else '+') = true := by split <;> decide
  exact (hwhole.append hrest).append (.cons (by decide) (.cons hsign
    ((areNumeric_zeros _).append (areNumeric_toDigits _))))

/-- A finite double is written with numeric characters, in whatever format. -/
theorem areNumeric_write (f : Format) {x : Float} (hnan : x.isNaN = false)
    (hinf : x.isInf = false) : AreNumeric (f.write x).toList := by
  have hsign : AreNumeric (if isNegative x then "-" else "").toList := by
    split
    · exact .cons (by decide) (by simp [AreNumeric])
    · simp [AreNumeric]
  have hzero : AreNumeric "0.0".toList :=
    .cons (by decide) (.cons (by decide) (.cons (by decide) (by simp [AreNumeric])))
  have hdigits := areNumeric_significant (shortest x)
  unfold Format.write
  simp only [hnan, hinf, Bool.false_eq_true, if_false]
  split
  · rw [String.toList_append]
    exact hsign.append hzero
  · rw [String.toList_append, String.toList_ofList]
    refine hsign.append ?_
    split
    · exact areNumeric_positional hdigits _
    · exact areNumeric_scientific hdigits _ _

theorem areNumeric_toString (n : Int) : AreNumeric (toString n).toList := by
  have hrepr (m : Nat) : AreNumeric m.repr.toList := by
    rw [Nat.repr_eq_ofList_toDigits, String.toList_ofList]
    exact areNumeric_toDigits m
  cases n with
  | ofNat m => exact hrepr m
  | negSucc m =>
    change AreNumeric ("-" ++ (m + 1).repr).toList
    rw [String.toList_append]
    exact (AreNumeric.cons (by decide) (by simp [AreNumeric])).append (hrepr _)

/-! ## Numbers and words in front of what ends them -/

namespace Reply

/-- What may follow a value: nothing, or a mark that ends it. -/
def Ends (rest : List Char) : Prop := ∀ c ∈ rest.head?, c = ',' ∨ c = ']' ∨ c = '\x7d'

theorem someDigits_eq_ok {cs ds : List Char} {offset : Nat} :
    someDigits cs offset = .ok ds ↔ cs.takeWhile isPlainDigit = ds ∧ ds ≠ [] := by
  unfold someDigits
  generalize hes : cs.takeWhile isPlainDigit = es
  cases es with
  | nil =>
    cases cs with
    | nil => simp
    | cons c cs =>
      simp only [reduceCtorEq, false_iff, not_and, not_not]
      exact Eq.symm
  | cons e es =>
    simp only [Except.ok.injEq, iff_self_and]
    rintro rfl
    simp

theorem wordLength_append {ws cs : List Char} {n k : Nat} (rest : List Char)
    (h : wordLength ws cs n = .ok k) : wordLength ws (cs ++ rest) n = .ok k := by
  induction ws generalizing cs n with
  | nil =>
    rw [wordLength] at h ⊢
    exact h
  | cons w ws ih =>
    cases cs with
    | nil => cases h
    | cons c cs =>
      rw [List.cons_append]
      rw [wordLength] at h ⊢
      split at h
      · next heq =>
        rw [if_pos heq]
        exact ih h
      · cases h

theorem wordLength_bounds {ws cs : List Char} {n k : Nat} (h : wordLength ws cs n = .ok k) :
    n ≤ k ∧ k ≤ n + cs.length := by
  induction ws generalizing cs n with
  | nil =>
    rw [wordLength] at h
    cases h
    exact ⟨Nat.le_refl _, Nat.le_add_right _ _⟩
  | cons w ws ih =>
    cases cs with
    | nil => cases h
    | cons c cs =>
      rw [wordLength] at h
      split at h
      · obtain ⟨hlow, hhigh⟩ := ih h
        rw [List.length_cons]
        omega
      · cases h

theorem length_signed (cs : List Char) :
    (if (Numeral.signed cs).1 then 1 else 0) + (Numeral.signed cs).2.length ≤ cs.length := by
  unfold Numeral.signed
  split <;> simp [Nat.add_comm]

theorem lexFraction_le {cs : List Char} {offset m : Nat} {fraction : Option (List Char)}
    (h : lexFraction cs offset = .ok (fraction, m)) : m ≤ cs.length := by
  unfold lexFraction at h
  split at h
  · next cs =>
    obtain ⟨ds, hds, hr⟩ := bind_eq_ok.1 h
    obtain ⟨rfl, -⟩ := someDigits_eq_ok.1 hds
    cases hr
    have hle := (List.takeWhile_prefix (l := cs) isPlainDigit).length_le
    simpa using hle
  · cases h
    exact Nat.zero_le _

theorem lexPower_le {cs : List Char} {offset n : Nat} {power : Option Int}
    (h : lexPower cs offset = .ok (power, n)) : n ≤ cs.length := by
  unfold lexPower at h
  split at h
  · next c cs =>
    dsimp only at h
    split at h
    · obtain ⟨ds, hds, hr⟩ := bind_eq_ok.1 h
      obtain ⟨rfl, -⟩ := someDigits_eq_ok.1 hds
      cases hr
      have hle := (List.takeWhile_prefix (l := (Numeral.signed cs).2) isPlainDigit).length_le
      have hsigned := length_signed cs
      rw [List.length_cons]
      omega
    · cases h
      exact Nat.zero_le _
  · cases h
    exact Nat.zero_le _

/-- The number that is written by a sign, digits, digits after a point and a power of ten; without
a point and a power it is an integer. -/
def numberOf (negative : Bool) (whole : List Char) : Option (List Char) → Option Int → Json
  | none, none => .int (if negative then -(digitsValue whole : Int) else digitsValue whole)
  | fraction, power =>
    let ds := fraction.getD []
    .float (Numeral.finite negative (digitsValue (whole ++ ds)) (power.getD 0 - ds.length)).toFloat

/-- How a number can stand at the beginning of a text: a number and the characters it takes. -/
inductive NumberAt (cs : List Char) : Json × Nat → Prop
  | infinite {body : List Char} {n : Nat} (hsign : Numeral.signed cs = (true, 'I' :: body))
      (hword : wordLength "nfinity".toList body 2 = .ok n) : NumberAt cs (.float (-1 / 0), n)
  | digits {negative : Bool} {body whole : List Char} {fraction : Option (List Char)} {m n : Nat}
      {power : Option Int} {start : Nat} (hsign : Numeral.signed cs = (negative, body))
      (hstart : start = if negative then 1 else 0)
      (hwhole : someDigits body start = .ok whole)
      (hzero : ¬(whole.head? == some '0' && 1 < whole.length) = true)
      (hlimit : ¬integerLimit < whole.length)
      (hfraction : lexFraction (body.drop whole.length) (start + whole.length) = .ok (fraction, m))
      (hpower : lexPower ((body.drop whole.length).drop m) (start + whole.length + m) =
        .ok (power, n)) :
      NumberAt cs (numberOf negative whole fraction power, start + whole.length + m + n)

theorem numberAt_of_lexNumber {cs : List Char} {r : Json × Nat} (h : lexNumber cs = .ok r) :
    NumberAt cs r := by
  unfold lexNumber at h
  rcases hsign : Numeral.signed cs with ⟨negative, body⟩
  rw [hsign] at h
  dsimp only at h
  split at h
  · next hword =>
    obtain ⟨n, hn, hr⟩ := bind_eq_ok.1 h
    cases hr
    simp only [Bool.and_eq_true, beq_iff_eq] at hword
    obtain ⟨rfl, hhead⟩ := hword
    obtain ⟨body, rfl⟩ := List.head?_eq_some_iff.1 hhead
    exact .infinite hsign hn
  · obtain ⟨whole, hwhole, h⟩ := bind_eq_ok.1 h
    split at h
    · cases h
    · next hzero =>
      split at h
      · cases h
      · next hlimit =>
        obtain ⟨⟨fraction, m⟩, hfraction, h⟩ := bind_eq_ok.1 h
        obtain ⟨⟨power, n⟩, hpower, h⟩ := bind_eq_ok.1 h
        have hr : r = (numberOf negative whole fraction power,
            (if negative then 1 else 0) + whole.length + m + n) := by
          cases fraction <;> cases power <;> cases h <;> rfl
        rw [hr]
        exact .digits hsign rfl hwhole hzero hlimit hfraction hpower

theorem NumberAt.lexNumber_eq {cs : List Char} {r : Json × Nat} (h : NumberAt cs r) :
    lexNumber cs = .ok r := by
  unfold lexNumber
  cases h with
  | infinite hsign hword =>
    rw [hsign]
    exact bind_eq_ok.2 ⟨_, hword, rfl⟩
  | @digits negative body whole fraction m n power start hsign hstart hwhole hzero hlimit
      hfraction hpower =>
    subst hstart
    have hword : ¬(negative && body.head? == some 'I') = true := by
      intro hword
      simp only [Bool.and_eq_true, beq_iff_eq] at hword
      obtain ⟨body, rfl⟩ := List.head?_eq_some_iff.1 hword.2
      obtain ⟨hwhole, hne⟩ := someDigits_eq_ok.1 hwhole
      exact hne hwhole.symm
    rw [hsign]
    dsimp only
    rw [if_neg hword]
    refine bind_eq_ok.2 ⟨whole, hwhole, ?_⟩
    rw [if_neg hzero, if_neg hlimit]
    refine bind_eq_ok.2 ⟨_, hfraction, bind_eq_ok.2 ⟨_, hpower, ?_⟩⟩
    cases fraction <;> cases power <;> rfl

/-- A number takes some characters, and no more than there are. -/
theorem NumberAt.size_bounds {cs : List Char} {r : Json × Nat} (h : NumberAt cs r) :
    0 < r.2 ∧ r.2 ≤ cs.length := by
  have hsigned := length_signed cs
  cases h with
  | infinite hsign hword =>
    rw [hsign] at hsigned
    obtain ⟨hlow, hhigh⟩ := wordLength_bounds hword
    simp only [List.length_cons, if_true] at hsigned
    dsimp only
    omega
  | @digits negative body whole fraction m n power start hsign hstart hwhole _ _ hfraction
      hpower =>
    rw [hsign] at hsigned
    obtain ⟨rfl, hne⟩ := someDigits_eq_ok.1 hwhole
    have hsome := List.length_pos_of_ne_nil hne
    have hm := lexFraction_le hfraction
    have hn := lexPower_le hpower
    have hle := (List.takeWhile_prefix (l := body) isPlainDigit).length_le
    rw [← hstart] at hsigned
    simp only [List.length_drop] at hm hn
    dsimp only at hsigned ⊢
    omega

section Append

variable {cs rest : List Char} (hrest : Ends rest)
include hrest

theorem takeWhile_append_of_ends :
    (cs ++ rest).takeWhile isPlainDigit = cs.takeWhile isPlainDigit := by
  have hnone : rest.takeWhile isPlainDigit = [] := by
    cases rest with
    | nil => rfl
    | cons c rest =>
      have hc : isPlainDigit c = false := by
        rcases hrest c rfl with rfl | rfl | rfl <;> decide
      simp [hc]
  rw [List.takeWhile_append, hnone, List.append_nil]
  split
  · next h => exact ((List.takeWhile_prefix _).eq_of_length h).symm
  · rfl

theorem signed_append : Numeral.signed (cs ++ rest) =
    ((Numeral.signed cs).1, (Numeral.signed cs).2 ++ rest) := by
  have hsigned {c : Char} {ds : List Char} (hminus : c ≠ '-') (hplus : c ≠ '+') :
      Numeral.signed (c :: ds) = (false, c :: ds) := by
    unfold Numeral.signed
    split <;> simp_all
  cases cs with
  | nil =>
    cases rest with
    | nil => rfl
    | cons c rest => rcases hrest c rfl with rfl | rfl | rfl <;> rfl
  | cons c cs =>
    by_cases hminus : c = '-'
    · subst hminus
      rfl
    · by_cases hplus : c = '+'
      · subst hplus
        rfl
      · rw [List.cons_append, hsigned hminus hplus, hsigned hminus hplus]
        rfl

theorem someDigits_append {offset : Nat} {ds : List Char} (h : someDigits cs offset = .ok ds) :
    someDigits (cs ++ rest) offset = .ok ds := by
  rw [someDigits_eq_ok] at h ⊢
  rwa [takeWhile_append_of_ends hrest]

theorem lexFraction_append {offset : Nat} {r : Option (List Char) × Nat}
    (h : lexFraction cs offset = .ok r) : lexFraction (cs ++ rest) offset = .ok r := by
  cases cs with
  | nil =>
    cases h
    cases rest with
    | nil => rfl
    | cons c rest => rcases hrest c rfl with rfl | rfl | rfl <;> rfl
  | cons c cs =>
    by_cases hc : c = '.'
    · subst hc
      obtain ⟨ds, hds, hr⟩ := bind_eq_ok.1 h
      exact bind_eq_ok.2 ⟨ds, someDigits_append hrest hds, hr⟩
    · unfold lexFraction at h ⊢
      simp_all

theorem lexPower_append {offset : Nat} {r : Option Int × Nat}
    (h : lexPower cs offset = .ok r) : lexPower (cs ++ rest) offset = .ok r := by
  cases cs with
  | nil =>
    cases h
    cases rest with
    | nil => rfl
    | cons c rest => rcases hrest c rfl with rfl | rfl | rfl <;> rfl
  | cons c cs =>
    rw [List.cons_append]
    unfold lexPower at h ⊢
    dsimp only at h ⊢
    rw [signed_append hrest]
    split at h
    · next he =>
      rw [if_pos he]
      obtain ⟨ds, hds, hr⟩ := bind_eq_ok.1 h
      have hsign : (cs ++ rest).length - ((Numeral.signed cs).2 ++ rest).length =
          cs.length - (Numeral.signed cs).2.length := by
        simp only [List.length_append]
        omega
      rw [hsign]
      exact bind_eq_ok.2 ⟨ds, someDigits_append hrest hds, hr⟩
    · next he =>
      rw [if_neg he]
      exact h

/-- A number is read alike whatever ends it. -/
theorem NumberAt.append {r : Json × Nat} (h : NumberAt cs r) : NumberAt (cs ++ rest) r := by
  have hsigned : Numeral.signed (cs ++ rest) =
      ((Numeral.signed cs).1, (Numeral.signed cs).2 ++ rest) := signed_append hrest
  cases h with
  | infinite hsign hword =>
    rw [hsign] at hsigned
    exact .infinite hsigned (wordLength_append rest hword)
  | @digits negative body whole fraction m n power start hsign hstart hwhole hzero hlimit
      hfraction hpower =>
    rw [hsign] at hsigned
    have hlength : whole.length ≤ body.length := by
      obtain ⟨rfl, -⟩ := someDigits_eq_ok.1 hwhole
      exact (List.takeWhile_prefix _).length_le
    have hdrop : (body ++ rest).drop whole.length = body.drop whole.length ++ rest :=
      List.drop_append_of_le_length hlength
    have hdrop' : (body.drop whole.length ++ rest).drop m =
        (body.drop whole.length).drop m ++ rest :=
      List.drop_append_of_le_length (lexFraction_le hfraction)
    refine .digits hsigned hstart (someDigits_append hrest hwhole) hzero hlimit ?_ ?_
    · rw [hdrop]
      exact lexFraction_append hrest hfraction
    · rw [hdrop, hdrop']
      exact lexPower_append hrest hpower

end Append

end Reply

end Json

end DeckPress
