import DeckPress.Proofs.NumberTexts
import Mathlib.Tactic.SplitIfs

/-!
# Printed JSON

The reader of replies inverts the printer of decks: a value is read back from its text if its
numbers are, if no object has a key twice, and if no more arrays and objects are open at once than
the reader admits. The text of a part takes the reader's machine from one state to another,
whatever ends it, so texts are read as they are put together.
-/
namespace DeckPress.Json

open Number Text

/-! ## Quoted texts -/

namespace Quotation

variable {read : List Char} {offset : Nat} {cs : List Char}

theorem scan_plain {alone : Bool} {unit : Option Nat} {c : Char} (hquote : c ≠ '"')
    (hslash : c ≠ '\\') (hcontrol : ¬c.toNat < 0x20) :
    scan alone (.plain unit) read offset (c :: cs) =
      scan alone (.plain none) (c :: read) (offset + 1) cs := by
  simp [scan, step, plainStep, hquote, hslash, hcontrol]

theorem scan_escaped {alone : Bool} {unit : Option Nat} {l c : Char} (hl : escaped? l = some c) :
    scan alone (.plain unit) read offset ('\\' :: l :: cs) =
      scan alone (.plain none) (c :: read) (offset + 2) cs := by
  have hu : l ≠ 'u' := by
    rintro rfl
    cases hl
  simp [scan, step, plainStep, escapeStep, hl, hu]

theorem hex_of_control : ∀ n < 0x20, Quoted.hex 4 n =
    ['0', '0', Nat.digitChar (n / 16), Nat.digitChar (n % 16)] := by decide

theorem length_unitEscape {n : Nat} (hn : n < 0x20) : (unitEscape n).length = 6 := by
  rw [unitEscape, hex_of_control n hn]
  rfl

theorem scan_unitEscape {alone : Bool} {unit : Option Nat} {n : Nat} (hn : n < 0x20) :
    scan alone (.plain unit) read offset (unitEscape n ++ cs) =
      scan alone (.plain (some (offset + 1))) (Char.ofNat n :: read) (offset + 6) cs := by
  have hdigit : ∀ d < 16, hexValue? (Nat.digitChar d) = some d := by decide
  have hzero : hexValue? '0' = some 0 := by decide
  have hhigh := hdigit (n / 16) (by omega)
  have hlow := hdigit (n % 16) (by omega)
  have hvalue : 16 * (n / 16) + n % 16 = n := Nat.div_add_mod n 16
  have hnot : isHigh n = false ∧ isLow n = false := by
    simp only [isHigh, isLow, Bool.and_eq_false_iff, decide_eq_false_iff_not]
    omega
  simp [unitEscape, hex_of_control n hn, scan, step, plainStep, escapeStep, hzero, hhigh, hlow,
    hvalue, unitStep, hnot]

/-- However a character is written in quotes, it is read as itself. -/
theorem scan_escapeChar (alone : Bool) (unit : Option Nat) (read : List Char) (offset : Nat)
    (c : Char) (cs : List Char) :
    ∃ unit', scan alone (.plain unit) read offset (escapeChar false c ++ cs) =
      scan alone (.plain unit') (c :: read) (offset + (escapeChar false c).length) cs := by
  unfold escapeChar
  split
  · exact ⟨none, scan_escaped rfl⟩
  · exact ⟨none, scan_escaped rfl⟩
  · exact ⟨none, scan_escaped rfl⟩
  · exact ⟨none, scan_escaped rfl⟩
  · exact ⟨none, scan_escaped rfl⟩
  · exact ⟨none, scan_escaped rfl⟩
  · exact ⟨none, scan_escaped rfl⟩
  · next hquote hslash _ _ _ _ _ =>
    split
    · next hcontrol =>
      have hn : c.toNat < 0x20 := by simpa using hcontrol
      have hescape : numberedEscape c = unitEscape c.toNat := if_pos (by omega)
      have hlength : (unitEscape c.toNat).length = 6 := length_unitEscape hn
      refine ⟨some (offset + 1), ?_⟩
      rw [hescape, scan_unitEscape hn, hlength, Char.ofNat_toNat]
    · next hcontrol =>
      exact ⟨none, scan_plain hquote hslash (by simpa using hcontrol)⟩

theorem scan_quoted (alone : Bool) (s : List Char) (unit : Option Nat) (read : List Char)
    (offset : Nat) (rest : List Char) :
    scan alone (.plain unit) read offset (s.flatMap (escapeChar false) ++ '"' :: rest) =
      .ok (read.reverse ++ s, offset + (s.flatMap (escapeChar false)).length + 1) := by
  induction s generalizing unit read offset with
  | nil => simp [scan, step, plainStep]
  | cons c s ih =>
    obtain ⟨unit', hc⟩ := scan_escapeChar alone unit read offset c
      (s.flatMap (escapeChar false) ++ '"' :: rest)
    rw [List.flatMap_cons, List.append_assoc, hc, ih]
    simp [Nat.add_assoc]

end Quotation

namespace Reply

/-! ## Tokens -/

theorem lexed_eq_value {x : Except (String × Nat) (Json × Nat)} {v : Json} {n : Nat} :
    lexed x = ⟨.value v, n⟩ ↔ x = .ok (v, n) := by
  rcases x with ⟨message, offset⟩ | ⟨w, size⟩ <;> simp [lexed]

theorem lexWord_append {word : String} {v : Json} {c : Char} {cs : List Char} {r : Json × Nat}
    (rest : List Char) (h : lexWord word v (c :: cs) = .ok r) :
    lexWord word v (c :: cs ++ rest) = .ok r := by
  obtain ⟨n, hn, hr⟩ := bind_eq_ok.1 h
  exact bind_eq_ok.2 ⟨n, wordLength_append rest hn, hr⟩

theorem lexString_ne_value {cs : List Char} {v : Json} {n : Nat} : lexString cs ≠ ⟨.value v, n⟩ := by
  unfold lexString
  split <;> simp

theorem mark?_ne_value {c : Char} {v : Json} : mark? c ≠ some (.value v) := by
  unfold mark?
  split <;> simp

/-- A number or a word is read alike whatever ends it. -/
theorem lex_append {cs rest : List Char} (hrest : Ends rest) {v : Json} {n : Nat}
    (h : lex cs = ⟨.value v, n⟩) : lex (cs ++ rest) = ⟨.value v, n⟩ := by
  have hnumber {cs : List Char} (hcs : lexed (lexNumber cs) = ⟨.value v, n⟩) :
      lexed (lexNumber (cs ++ rest)) = ⟨.value v, n⟩ :=
    lexed_eq_value.2 ((numberAt_of_lexNumber (lexed_eq_value.1 hcs)).append hrest).lexNumber_eq
  have hword {word : String} {w : Json} {c : Char} {cs : List Char}
      (hcs : lexed (lexWord word w (c :: cs)) = ⟨.value v, n⟩) :
      lexed (lexWord word w (c :: cs ++ rest)) = ⟨.value v, n⟩ :=
    lexed_eq_value.2 (lexWord_append rest (lexed_eq_value.1 hcs))
  cases cs with
  | nil => cases h
  | cons c cs =>
    rw [List.cons_append]
    unfold lex at h ⊢
    dsimp only at h ⊢
    cases hmark : mark? c with
    | some t =>
      rw [hmark] at h
      cases h
      exact absurd hmark mark?_ne_value
    | none =>
      rw [hmark] at h
      dsimp only at h ⊢
      split_ifs at h ⊢
      · exact absurd h lexString_ne_value
      · exact hword h
      · exact hword h
      · exact hword h
      · exact hword h
      · exact hword h
      · exact hnumber h
      · cases h

theorem lexed_ne_finish {x : Except (String × Nat) (Json × Nat)} : (lexed x).token ≠ .finish := by
  rcases x with ⟨message, offset⟩ | ⟨w, size⟩ <;> simp [lexed]

theorem lexString_ne_finish {cs : List Char} : (lexString cs).token ≠ .finish := by
  unfold lexString
  split <;> simp

theorem mark?_ne_finish {c : Char} : mark? c ≠ some .finish := by
  unfold mark?
  split <;> simp

theorem lex_cons_ne_finish {c : Char} {cs : List Char} : (lex (c :: cs)).token ≠ .finish := by
  unfold lex
  dsimp only
  cases hmark : mark? c with
  | some t =>
    intro ht
    exact mark?_ne_finish (hmark.trans (congrArg some ht))
  | none =>
    dsimp only
    split_ifs
    · exact lexString_ne_finish
    · exact lexed_ne_finish
    · exact lexed_ne_finish
    · exact lexed_ne_finish
    · exact lexed_ne_finish
    · exact lexed_ne_finish
    · exact lexed_ne_finish
    · simp

theorem isGap_eq_false_of_isNumeric {c : Char} (h : isNumeric c = true) : isGap c = false := by
  rw [Bool.eq_false_iff]
  intro hgap
  simp only [isGap, Bool.or_eq_true, beq_iff_eq] at hgap
  rcases hgap with ((rfl | rfl) | rfl) | rfl <;> revert h <;> decide

theorem lex_number {c : Char} {cs : List Char} (h : c = '-' ∨ isPlainDigit c = true) :
    lex (c :: cs) = lexed (lexNumber (c :: cs)) := by
  have hne {d : Char} (hd : isPlainDigit d = false) (hminus : '-' ≠ d) : c ≠ d := by
    rintro rfl
    rcases h with rfl | h
    · exact hminus rfl
    · rw [hd] at h
      cases h
  have hmark : mark? c = none := by
    unfold mark?
    split
    · exact absurd rfl (hne (by decide) (by decide))
    · exact absurd rfl (hne (by decide) (by decide))
    · exact absurd rfl (hne (by decide) (by decide))
    · exact absurd rfl (hne (by decide) (by decide))
    · exact absurd rfl (hne (by decide) (by decide))
    · exact absurd rfl (hne (by decide) (by decide))
    · rfl
  have hquote : c ≠ '"' := hne (by decide) (by decide)
  have ht : c ≠ 't' := hne (by decide) (by decide)
  have hf : c ≠ 'f' := hne (by decide) (by decide)
  have hn : c ≠ 'n' := hne (by decide) (by decide)
  have hN : c ≠ 'N' := hne (by decide) (by decide)
  have hI : c ≠ 'I' := hne (by decide) (by decide)
  simp [lex, hmark, hquote, ht, hf, hn, hN, hI, h]

theorem lex_mark {c : Char} {t : Token} (cs : List Char) (h : mark? c = some t) :
    lex (c :: cs) = ⟨t, 1⟩ := by
  simp [lex, h]

theorem toList_quote (s : String) :
    (quote false s).toList = '"' :: (s.toList.flatMap (escapeChar false) ++ ['"']) := by
  simp [quote]

theorem lex_quote (s : String) (rest : List Char) :
    lex ((quote false s).toList ++ rest) = ⟨.text s, (quote false s).toList.length⟩ := by
  have hscan := Quotation.scan_quoted false s.toList none [] 0 rest
  have hlex : lex ((quote false s).toList ++ rest) =
      lexString (s.toList.flatMap (escapeChar false) ++ '"' :: rest) := by
    simp [quote, lex, mark?]
  rw [hlex, lexString, Quotation.read, hscan]
  simp [quote]

def isSound : Token → Bool
  | .broken .. => false
  | .stray => false
  | _ => true

theorem tokens_nil (place : Nat) :
    tokens lex ([] : List Char).length place [] = [⟨.finish, place⟩] := by
  simp [tokens]

theorem tokens_cons {c : Char} {cs : List Char} {place size : Nat} {t : Token}
    (hgap : isGap c = false) (hlex : lex (c :: cs) = ⟨t, size⟩) (ht : isSound t = true) :
    tokens lex (c :: cs).length place (c :: cs) = ⟨t, place⟩ ::
      tokens lex (cs.drop (size - 1)).length (place + 1 + (size - 1)) (cs.drop (size - 1)) := by
  rw [List.length_cons, tokens]
  cases t <;> simp_all [isSound]

/-- The first token of a text stands where the text begins, unless the text begins with a gap. -/
theorem exists_tokens_eq_cons {c : Char} (cs : List Char) (place : Nat) (hgap : isGap c = false) :
    ∃ more, tokens lex (c :: cs).length place (c :: cs) =
      ⟨(lex (c :: cs)).token, place⟩ :: more := by
  rw [List.length_cons, tokens]
  simp only [hgap, Bool.false_eq_true, if_false]
  split
  · next ht => exact ⟨[], by rw [ht]⟩
  · next ht => exact ⟨[], by rw [ht]⟩
  · exact ⟨_, rfl⟩

/-! ## Numbers read alone -/

theorem step_nothing {v : Json} {t : Placed} {m : Machine}
    (h : Machine.step dialect ⟨.nothing v, []⟩ t = .ok m) : t.token = .finish := by
  obtain ⟨token, place⟩ := t
  cases token <;> first | rfl | cases h

/-- A text that is read as a value takes the machine to it. -/
theorem exists_foldlM_of_read {s : String} {v : Json} (h : read s = .ok v) :
    ∃ m, (tokens lex s.toList.length 0 s.toList).foldlM (Machine.step dialect) ⟨.value, []⟩ = .ok m ∧
      m.want = .nothing v := by
  have hwith : readWith dialect s.toList = .ok v := by
    unfold read at h
    cases hr : readWith dialect s.toList with
    | error f =>
      rw [hr] at h
      cases h
    | ok w =>
      rw [hr] at h
      cases h
      rfl
  obtain ⟨m, hm, hwant⟩ := bind_eq_ok.1 hwith
  refine ⟨m, hm, ?_⟩
  split at hwant
  · next heq =>
    cases hwant
    exact heq
  · cases hwant

/-- The machine takes the first token of a text that it gets through. -/
theorem exists_step_of_foldlM {c : Char} {cs : List Char} {place : Nat} {m m' : Machine}
    (hgap : isGap c = false)
    (h : (tokens lex (c :: cs).length place (c :: cs)).foldlM (Machine.step dialect) m = .ok m') :
    ∃ n, Machine.step dialect m ⟨(lex (c :: cs)).token, place⟩ = .ok n := by
  obtain ⟨more, hmore⟩ := exists_tokens_eq_cons cs place hgap
  rw [hmore, List.foldlM_cons] at h
  obtain ⟨n, hn, -⟩ := bind_eq_ok.1 h
  exact ⟨n, hn⟩

theorem eq_nil_of_foldlM {v : Json} {cs : List Char} {place : Nat} {m : Machine}
    (hgap : ∀ c ∈ cs, isGap c = false)
    (h : (tokens lex cs.length place cs).foldlM (Machine.step dialect) ⟨.nothing v, []⟩ = .ok m) :
    cs = [] ∧ m = ⟨.nothing v, []⟩ := by
  cases cs with
  | nil =>
    rw [tokens_nil] at h
    cases h
    exact ⟨rfl, rfl⟩
  | cons c cs =>
    obtain ⟨n, hn⟩ := exists_step_of_foldlM (hgap c List.mem_cons_self) h
    exact absurd (step_nothing hn) lex_cons_ne_finish

theorem begins_number {c : Char} {cs : List Char} {m : Machine} (hc : isNumeric c = true)
    (h : (tokens lex (c :: cs).length 0 (c :: cs)).foldlM (Machine.step dialect) ⟨.value, []⟩ =
      .ok m) : c = '-' ∨ isPlainDigit c = true := by
  obtain ⟨n, hn⟩ := exists_step_of_foldlM (isGap_eq_false_of_isNumeric hc) h
  simp only [isNumeric, Bool.or_eq_true, beq_iff_eq] at hc
  rcases hc with (((hc | hc) | rfl) | rfl) | rfl
  · exact .inr hc
  · exact .inl hc
  · cases hn
  · cases hn
  · cases hn

/-- What is written with numeric characters and is read as a value is one token. -/
theorem lex_of_read {s : String} {v : Json} (hs : AreNumeric s.toList) (hread : read s = .ok v) :
    lex s.toList = ⟨.value v, s.toList.length⟩ := by
  obtain ⟨m, hm, hwant⟩ := exists_foldlM_of_read hread
  generalize s.toList = cs at hs hm ⊢
  cases cs with
  | nil =>
    rw [tokens_nil] at hm
    cases hm
  | cons c cs =>
    have hgap := isGap_eq_false_of_isNumeric (hs c List.mem_cons_self)
    have hc := begins_number (hs c List.mem_cons_self) hm
    cases hnumber : lexNumber (c :: cs) with
    | error e =>
      obtain ⟨n, hn⟩ := exists_step_of_foldlM hgap hm
      rw [lex_number hc, hnumber] at hn
      cases hn
    | ok r =>
      obtain ⟨w, size⟩ := r
      have hlex : lex (c :: cs) = ⟨.value w, size⟩ := by
        rw [lex_number hc, hnumber]
        rfl
      have hstep : Machine.step dialect ⟨.value, []⟩ ⟨.value w, 0⟩ = .ok ⟨.nothing w, []⟩ := rfl
      rw [tokens_cons hgap hlex rfl, List.foldlM_cons, hstep] at hm
      obtain ⟨hrest, rfl⟩ := eq_nil_of_foldlM
        (fun d hd => isGap_eq_false_of_isNumeric
          (hs d (List.mem_cons_of_mem c (List.mem_of_mem_drop hd)))) hm
      cases hwant
      obtain ⟨hpos, hle⟩ := (numberAt_of_lexNumber hnumber).size_bounds
      have hsize : size = (c :: cs).length := by
        rw [List.drop_eq_nil_iff] at hrest
        rw [List.length_cons] at hle ⊢
        dsimp only at hpos hle
        omega
      rw [hlex, hsize]

/-! ## Texts that take the machine on -/

/-- Reading the characters in front of the rest takes the machine from one state to the other. -/
def Reads (cs rest : List Char) (m m' : Machine) : Prop :=
  ∀ place, ∃ place', (tokens lex (cs ++ rest).length place (cs ++ rest)).foldlM
      (Machine.step dialect) m =
    (tokens lex rest.length place' rest).foldlM (Machine.step dialect) m'

theorem Reads.trans {cs cs' rest : List Char} {m m' m'' : Machine}
    (h : Reads cs (cs' ++ rest) m m') (h' : Reads cs' rest m' m'') :
    Reads (cs ++ cs') rest m m'' := by
  intro place
  obtain ⟨place', hplace⟩ := h place
  obtain ⟨place'', hplace'⟩ := h' place'
  exact ⟨place'', by rw [List.append_assoc, hplace, hplace']⟩

theorem reads_token {c : Char} {cs rest : List Char} {m m' : Machine} {t : Token}
    (hgap : isGap c = false) (hlex : lex (c :: cs ++ rest) = ⟨t, cs.length + 1⟩)
    (ht : isSound t = true) (hstep : ∀ place, Machine.step dialect m ⟨t, place⟩ = .ok m') :
    Reads (c :: cs) rest m m' := by
  intro place
  refine ⟨place + 1 + cs.length, ?_⟩
  have hdrop : (cs ++ rest).drop (cs.length + 1 - 1) = rest := by simp
  rw [List.cons_append] at hlex ⊢
  rw [tokens_cons hgap hlex ht, hdrop, List.foldlM_cons, hstep]
  rfl

theorem reads_mark {c : Char} {rest : List Char} {m m' : Machine} {t : Token}
    (hmark : mark? c = some t) (hgap : isGap c = false) (ht : isSound t = true)
    (hstep : ∀ place, Machine.step dialect m ⟨t, place⟩ = .ok m') : Reads [c] rest m m' :=
  reads_token hgap (lex_mark _ hmark) ht hstep

theorem reads_quote {s : String} {rest : List Char} {m m' : Machine}
    (hstep : ∀ place, Machine.step dialect m ⟨.text s, place⟩ = .ok m') :
    Reads (quote false s).toList rest m m' := by
  have hlex := lex_quote s rest
  rw [toList_quote] at hlex ⊢
  exact reads_token (by decide) hlex rfl hstep

def wantsValue : Want → Bool
  | .value => true
  | .firstItem => true
  | .nextItem => true
  | _ => false

def beginsValue : Token → Bool
  | .text _ => true
  | .value _ => true
  | .openItems => true
  | .openEntries => true
  | _ => false

theorem step_value {want : Want} {stack : List Frame} {t : Token} {place : Nat}
    (hwant : wantsValue want = true) (ht : beginsValue t = true)
    (hdepth : stack.length ≤ depthLimit) :
    Machine.step dialect ⟨want, stack⟩ ⟨t, place⟩ =
      Machine.takeValue dialect ⟨want, stack⟩ ⟨t, place⟩ := by
  have hnot : ¬depthLimit < stack.length := by omega
  cases want <;> cases hwant <;> cases t <;> cases ht <;>
    simp [Machine.step, dialect, isTooDeep, hnot, Machine.take]

/-! ## Values -/

/-- The text of a value is taken for the value, as one token. -/
def IsSpelled (v : Json) : Prop :=
  lex (v.print deckStyle).toList = ⟨.value v, (v.print deckStyle).toList.length⟩

theorem isSpelled_null : IsSpelled .null := rfl

theorem isSpelled_bool (b : Bool) : IsSpelled (.bool b) := by cases b <;> rfl

/-- Data that can be read from its text: its numbers are spelled, no object has a key twice, and no
more than `depth` arrays and objects are open at once. -/
inductive IsReadable : Nat → Json → Prop
  | spelled {depth : Nat} {v : Json} (hv : IsSpelled v) : IsReadable depth v
  | str {depth : Nat} (s : String) : IsReadable depth (.str s)
  | arr {depth : Nat} {items : List Json} (hitems : ∀ v ∈ items, IsReadable depth v) :
      IsReadable (depth + 1) (.arr items)
  | obj {depth : Nat} {entries : Entries} (hkeys : (entries.map Prod.fst).Nodup)
      (hentries : ∀ e ∈ entries, IsReadable depth e.2) : IsReadable (depth + 1) (.obj entries)

/-- The text of a value, in front of what ends it, takes the machine through the value. -/
def IsRead (depth : Nat) (v : Json) : Prop :=
  ∀ {rest : List Char} {want : Want} {stack : List Frame}, Ends rest → wantsValue want = true →
    stack.length + depth ≤ depthLimit →
    Reads (v.print deckStyle).toList rest ⟨want, stack⟩ (Machine.complete v stack)

theorem isRead_spelled {depth : Nat} {v : Json} (hv : IsSpelled v) : IsRead depth v := by
  intro rest want stack hrest hwant hdepth
  unfold IsSpelled at hv
  generalize (v.print deckStyle).toList = cs at hv ⊢
  cases cs with
  | nil => cases hv
  | cons c cs =>
    have hgap : isGap c = false := by
      rw [Bool.eq_false_iff]
      intro hgap
      simp only [isGap, Bool.or_eq_true, beq_iff_eq] at hgap
      rcases hgap with ((rfl | rfl) | rfl) | rfl <;> cases hv
    refine reads_token hgap (lex_append hrest hv) rfl fun place => ?_
    rw [step_value hwant rfl (by omega)]
    rfl

theorem isRead_str {depth : Nat} (s : String) : IsRead depth (.str s) := by
  intro rest want stack hrest hwant hdepth
  refine reads_quote fun place => ?_
  rw [step_value hwant rfl (by omega)]
  rfl

theorem ends_comma (rest : List Char) : Ends (',' :: rest) := by simp [Ends]

theorem ends_closeItems (rest : List Char) : Ends (']' :: rest) := by simp [Ends]

theorem ends_closeEntries (rest : List Char) : Ends ('\x7d' :: rest) := by simp [Ends]

theorem reads_items {depth : Nat} {v : Json} {vs : List Json} (h : ∀ w ∈ v :: vs, IsRead depth w)
    {rest : List Char} {want : Want} {done : List Json} {stack : List Frame}
    (hwant : wantsValue want = true) (hdepth : stack.length + 1 + depth ≤ depthLimit) :
    Reads (printItems deckStyle (v :: vs)).toList (']' :: rest) ⟨want, .items done :: stack⟩
      ⟨.closing, .items ((v :: vs).reverse ++ done) :: stack⟩ := by
  induction vs generalizing v want done with
  | nil =>
    exact h v List.mem_cons_self (ends_closeItems rest) hwant (by simpa using hdepth)
  | cons w ws ih =>
    have htext : (printItems deckStyle (v :: w :: ws)).toList =
        (v.print deckStyle).toList ++ ([','] ++ (printItems deckStyle (w :: ws)).toList) := by
      simp [printItems, deckStyle]
    have hv : Reads (v.print deckStyle).toList
        ([','] ++ (printItems deckStyle (w :: ws)).toList ++ ']' :: rest)
        ⟨want, .items done :: stack⟩ ⟨.closing, .items (v :: done) :: stack⟩ :=
      h v List.mem_cons_self (ends_comma _) hwant (by simpa using hdepth)
    have hcomma : Reads [','] ((printItems deckStyle (w :: ws)).toList ++ ']' :: rest)
        ⟨.closing, .items (v :: done) :: stack⟩ ⟨.nextItem, .items (v :: done) :: stack⟩ :=
      reads_mark rfl rfl rfl fun _ => rfl
    have hws : Reads (printItems deckStyle (w :: ws)).toList (']' :: rest)
        ⟨.nextItem, .items (v :: done) :: stack⟩
        ⟨.closing, .items ((w :: ws).reverse ++ v :: done) :: stack⟩ :=
      ih (fun u hu => h u (List.mem_cons_of_mem v hu)) rfl
    rw [htext]
    refine hv.trans (hcomma.trans ?_)
    simpa using hws

/-- A key that is not there yet goes to the end. -/
theorem put_of_notMem {done : Entries} {key : String} {v : Json} (h : key ∉ done.map Prod.fst) :
    done.put key v = done ++ [(key, v)] := by
  induction done with
  | nil => rfl
  | cons e done ih =>
    obtain ⟨k, w⟩ := e
    simp only [List.map_cons, List.mem_cons, not_or] at h
    have hk : (k == key) = false := by simpa using Ne.symm h.1
    rw [Entries.put, hk]
    simp [ih h.2]

theorem reads_entry {depth : Nat} {key : String} {v : Json} (h : IsRead depth v)
    {rest : List Char} {want : Want} {done : Entries} {stack : List Frame} (hrest : Ends rest)
    (hkey : key ∉ done.map Prod.fst) (hwant : want = .firstKey ∨ want = .nextKey)
    (hdepth : stack.length + 1 + depth ≤ depthLimit) :
    Reads ((quote false key).toList ++ ([':'] ++ (v.print deckStyle).toList)) rest
      ⟨want, .entries done :: stack⟩ ⟨.closing, .entries (done ++ [(key, v)]) :: stack⟩ := by
  have hquote (cs : List Char) : Reads (quote false key).toList cs ⟨want, .entries done :: stack⟩
      ⟨.colon, .member done key :: stack⟩ := by
    refine reads_quote fun place => ?_
    rcases hwant with rfl | rfl <;> rfl
  have hcolon (cs : List Char) : Reads [':'] cs ⟨.colon, .member done key :: stack⟩
      ⟨.value, .member done key :: stack⟩ := reads_mark rfl rfl rfl fun _ => rfl
  have hv : Reads (v.print deckStyle).toList rest ⟨.value, .member done key :: stack⟩
      ⟨.closing, .entries (done.put key v) :: stack⟩ := h hrest rfl hdepth
  rw [put_of_notMem hkey] at hv
  exact (hquote _).trans ((hcolon _).trans hv)

theorem reads_entries {depth : Nat} {e : String × Json} {es : Entries}
    (h : ∀ f ∈ e :: es, IsRead depth f.2)
    {rest : List Char} {want : Want} {done : Entries} {stack : List Frame}
    (hkeys : ((done ++ e :: es).map Prod.fst).Nodup)
    (hwant : want = .firstKey ∨ want = .nextKey) (hdepth : stack.length + 1 + depth ≤ depthLimit) :
    Reads (printEntries deckStyle (e :: es)).toList ('\x7d' :: rest) ⟨want, .entries done :: stack⟩
      ⟨.closing, .entries (done ++ e :: es) :: stack⟩ := by
  have hkey : e.1 ∉ done.map Prod.fst := by
    rw [List.map_append, List.nodup_append] at hkeys
    intro hmem
    exact hkeys.2.2 e.1 hmem e.1 (by simp) rfl
  have he {cs : List Char} (hcs : Ends cs) := reads_entry (h e List.mem_cons_self) hcs hkey hwant
    hdepth
  cases es with
  | nil =>
    have htext : (printEntries deckStyle [e]).toList =
        (quote false e.1).toList ++ ([':'] ++ (e.2.print deckStyle).toList) := by
      simp [printEntries, deckStyle]
    rw [htext]
    exact he (ends_closeEntries rest)
  | cons f es =>
    have htext : (printEntries deckStyle (e :: f :: es)).toList =
        ((quote false e.1).toList ++ ([':'] ++ (e.2.print deckStyle).toList)) ++
          ([','] ++ (printEntries deckStyle (f :: es)).toList) := by
      simp [printEntries, deckStyle]
    have hcomma : Reads [','] ((printEntries deckStyle (f :: es)).toList ++ '\x7d' :: rest)
        ⟨.closing, .entries (done ++ [e]) :: stack⟩ ⟨.nextKey, .entries (done ++ [e]) :: stack⟩ :=
      reads_mark rfl rfl rfl fun _ => rfl
    have hmore : Reads (printEntries deckStyle (f :: es)).toList ('\x7d' :: rest)
        ⟨.nextKey, .entries (done ++ [e]) :: stack⟩
        ⟨.closing, .entries (done ++ [e] ++ f :: es) :: stack⟩ :=
      reads_entries (fun g hg => h g (List.mem_cons_of_mem e hg)) (by simpa using hkeys)
        (.inr rfl) hdepth
    rw [htext]
    refine Reads.trans (he (ends_comma _)) ?_
    simpa using hcomma.trans hmore

theorem isRead_arr {depth : Nat} {items : List Json} (h : ∀ v ∈ items, IsRead depth v) :
    IsRead (depth + 1) (.arr items) := by
  intro rest want stack hrest hwant hdepth
  have hopen (cs : List Char) : Reads ['['] cs ⟨want, stack⟩ ⟨.firstItem, .items [] :: stack⟩ := by
    refine reads_mark rfl rfl rfl fun place => ?_
    rw [step_value hwant rfl (by omega)]
    rfl
  cases items with
  | nil =>
    have hclose : Reads [']'] rest ⟨.firstItem, .items [] :: stack⟩
        (Machine.complete (.arr []) stack) := reads_mark rfl rfl rfl fun _ => rfl
    have htext : ((Json.arr []).print deckStyle).toList = ['['] ++ [']'] := by
      simp [print, printItems]
    rw [htext]
    exact (hopen _).trans hclose
  | cons v vs =>
    have hitems : Reads (printItems deckStyle (v :: vs)).toList (']' :: rest)
        ⟨.firstItem, .items [] :: stack⟩ ⟨.closing, .items ((v :: vs).reverse ++ []) :: stack⟩ :=
      reads_items h rfl (by omega)
    have hclose : Reads [']'] rest ⟨.closing, .items ((v :: vs).reverse ++ []) :: stack⟩
        (Machine.complete (.arr (v :: vs)) stack) := by
      refine reads_mark rfl rfl rfl fun place => ?_
      -- the frame holds the items in reverse
      have hreverse : ((v :: vs).reverse ++ []).reverse = v :: vs := by simp
      change Except.ok (Machine.complete (.arr ((v :: vs).reverse ++ []).reverse) stack) = _
      rw [hreverse]
    have htext : ((Json.arr (v :: vs)).print deckStyle).toList =
        ['['] ++ ((printItems deckStyle (v :: vs)).toList ++ [']']) := by
      simp [print]
    rw [htext]
    exact (hopen _).trans (Reads.trans hitems hclose)

theorem isRead_obj {depth : Nat} {entries : Entries} (hkeys : (entries.map Prod.fst).Nodup)
    (h : ∀ e ∈ entries, IsRead depth e.2) : IsRead (depth + 1) (.obj entries) := by
  intro rest want stack hrest hwant hdepth
  have hopen (cs : List Char) : Reads ['\x7b'] cs ⟨want, stack⟩
      ⟨.firstKey, .entries [] :: stack⟩ := by
    refine reads_mark rfl rfl rfl fun place => ?_
    rw [step_value hwant rfl (by omega)]
    rfl
  cases entries with
  | nil =>
    have hclose : Reads ['\x7d'] rest ⟨.firstKey, .entries [] :: stack⟩
        (Machine.complete (.obj []) stack) := reads_mark rfl rfl rfl fun _ => rfl
    have htext : ((Json.obj []).print deckStyle).toList = ['\x7b'] ++ ['\x7d'] := by
      simp [print, printEntries]
    rw [htext]
    exact (hopen _).trans hclose
  | cons e es =>
    have hentries : Reads (printEntries deckStyle (e :: es)).toList ('\x7d' :: rest)
        ⟨.firstKey, .entries [] :: stack⟩ ⟨.closing, .entries ([] ++ e :: es) :: stack⟩ :=
      reads_entries h hkeys (.inl rfl) (by omega)
    have hclose : Reads ['\x7d'] rest ⟨.closing, .entries (e :: es) :: stack⟩
        (Machine.complete (.obj (e :: es)) stack) := reads_mark rfl rfl rfl fun _ => rfl
    have htext : ((Json.obj (e :: es)).print deckStyle).toList =
        ['\x7b'] ++ ((printEntries deckStyle (e :: es)).toList ++ ['\x7d']) := by
      simp [print]
    rw [htext]
    exact (hopen _).trans (Reads.trans hentries hclose)

/-- What is readable is read from its text. -/
theorem IsReadable.isRead {depth : Nat} {v : Json} (h : IsReadable depth v) : IsRead depth v := by
  induction h with
  | spelled hv => exact isRead_spelled hv
  | str s => exact isRead_str s
  | arr _ ih => exact isRead_arr ih
  | obj hkeys _ ih => exact isRead_obj hkeys ih

/-- Readable data within the limit is read back from its text. -/
theorem read_print {depth : Nat} {v : Json} (h : IsReadable depth v) (hdepth : depth ≤ depthLimit) :
    read (v.print deckStyle) = .ok v := by
  have hread : Reads (v.print deckStyle).toList [] ⟨.value, []⟩ (Machine.complete v []) :=
    h.isRead (by simp [Ends]) rfl (by simpa using hdepth)
  obtain ⟨place, hplace⟩ := hread 0
  rw [List.append_nil] at hplace
  rw [read, readWith, show dialect.lex = lex from rfl, hplace, tokens_nil]
  rfl

end Reply

end DeckPress.Json
