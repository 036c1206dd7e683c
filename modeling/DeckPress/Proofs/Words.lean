import DeckPress.Proofs.CanonicalLengths
import DeckPress.Proofs.EscapedText
import Mathlib.Data.List.Chain

/-!
# Words of texts

A text is cut into words where it is blank, so blanks around it and more than one between two words
make no difference. Words that are joined by single spaces are a text in its tidiest form: it falls
into the same words again, it has no blank at its ends, and no two of its blanks are neighbours.
-/
namespace DeckPress.Text

variable {p : Char → Bool} {cs ds w : List Char} {ws : List (List Char)} {c : Char}

/-! ## Pieces -/

theorem pieces_cons_of_pos (hc : p c = true) : pieces p (c :: cs) = [] :: pieces p cs := by
  cases h : pieces p cs with
  | nil => exact absurd h (pieces_ne_nil p cs)
  | cons w ws => simp [pieces, h, hc]

theorem pieces_cons_of_neg (hc : p c = false) (h : pieces p cs = w :: ws) :
    pieces p (c :: cs) = (c :: w) :: ws := by
  simp [pieces, h, hc]

theorem pieces_eq_singleton (h : ∀ c ∈ cs, p c = false) : pieces p cs = [cs] := by
  induction cs with
  | nil => rfl
  | cons c cs ih =>
    obtain ⟨hc, hcs⟩ := List.forall_mem_cons.1 h
    exact pieces_cons_of_neg hc (ih hcs)

/-- A separator ends the pieces before it, and those after it begin anew. -/
theorem pieces_append_cons (hc : p c = true) (cs ds : List Char) :
    pieces p (cs ++ c :: ds) = pieces p cs ++ pieces p ds := by
  induction cs with
  | nil => exact pieces_cons_of_pos hc
  | cons a cs ih =>
    obtain ⟨w, ws, hpieces⟩ := List.exists_cons_of_ne_nil (pieces_ne_nil p cs)
    rw [hpieces, List.cons_append] at ih
    cases ha : p a with
    | true => rw [List.cons_append, pieces_cons_of_pos ha, ih, pieces_cons_of_pos ha, hpieces]; rfl
    | false => rw [List.cons_append, pieces_cons_of_neg ha ih, pieces_cons_of_neg ha hpieces]; rfl

/-! ## Texts without blanks at their ends -/

/-- A text with no blank at either end. -/
structure IsTrimmed (cs : List Char) : Prop where
  first : ∀ c ∈ cs.head?, isBlank c = false
  last : ∀ c ∈ cs.getLast?, isBlank c = false

/-- Without what is dropped from its front, a text is what is left of it, before what is dropped from
its end. -/
theorem dropWhile_eq_trimBy_append (p : Char → Bool) (cs : List Char) :
    ∃ ds, (∀ c ∈ ds, p c = true) ∧ cs.dropWhile p = trimBy p cs ++ ds := by
  refine ⟨((cs.dropWhile p).reverse.takeWhile p).reverse, fun c hc => ?_, ?_⟩
  · exact List.mem_takeWhile_imp (List.mem_reverse.1 hc)
  · rw [trimBy, ← List.reverse_append, List.takeWhile_append_dropWhile, List.reverse_reverse]

/-- A text is what is left of it between what is dropped from its ends. -/
theorem eq_append_trimBy_append (p : Char → Bool) (cs : List Char) :
    ∃ bs ds, (∀ c ∈ bs, p c = true) ∧ (∀ c ∈ ds, p c = true) ∧ cs = bs ++ (trimBy p cs ++ ds) := by
  obtain ⟨ds, hds, hrest⟩ := dropWhile_eq_trimBy_append p cs
  refine ⟨cs.takeWhile p, ds, fun c hc => List.mem_takeWhile_imp hc, hds, ?_⟩
  rw [← hrest, List.takeWhile_append_dropWhile]

theorem mem_of_mem_trimBy (h : c ∈ trimBy p cs) : c ∈ cs := by
  obtain ⟨bs, ds, -, -, hcs⟩ := eq_append_trimBy_append p cs
  rw [hcs]
  exact List.mem_append_right _ (List.mem_append_left _ h)

theorem isTrimmed_trim (cs : List Char) : IsTrimmed (trim cs) := by
  have hdropped (ds : List Char) : ∀ c ∈ (ds.dropWhile isBlank).head?, isBlank c = false := by
    intro c hc
    have hhead := List.head?_dropWhile_not isBlank ds
    rwa [Option.mem_def.1 hc] at hhead
  constructor
  · intro c hc
    obtain ⟨ds, -, hrest⟩ := dropWhile_eq_trimBy_append isBlank cs
    refine hdropped cs c ?_
    rw [hrest, List.head?_append]
    exact Option.mem_def.2 (Option.or_eq_some_iff.2 (.inl hc))
  · rw [trim, trimBy, List.getLast?_reverse]
    exact hdropped _

/-- Trimming leaves alone just the texts that are trimmed. -/
theorem trim_eq_self_iff : trim cs = cs ↔ IsTrimmed cs := by
  constructor
  · intro h
    rw [← h]
    exact isTrimmed_trim cs
  · intro h
    exact trimBy_eq_self h.first h.last

@[simp] theorem toList_trimmed (s : String) : (trimmed s).toList = trim s.toList :=
  String.toList_ofList

theorem isTrimmed_trimmed (s : String) : IsTrimmed (trimmed s).toList := by
  rw [toList_trimmed]
  exact isTrimmed_trim s.toList

@[simp] theorem trimmed_trimmed (s : String) : trimmed (trimmed s) = trimmed s := by
  rw [trimmed, trim_eq_self_iff.2 (isTrimmed_trimmed s), String.ofList_toList]

theorem trimmed_eq_empty_iff {s : String} : trimmed s = "" ↔ ∀ c ∈ s.toList, isBlank c = true := by
  rw [← String.toList_inj, toList_trimmed]
  constructor
  · intro h
    obtain ⟨bs, ds, hbs, hds, hs⟩ := eq_append_trimBy_append isBlank s.toList
    rw [show trimBy isBlank s.toList = [] from h, List.nil_append] at hs
    rw [hs]
    exact List.forall_mem_append.2 ⟨hbs, hds⟩
  · intro h
    simp [trim, trimBy, List.dropWhile_eq_nil_iff.2 h]

/-- Blanks at the end of a text are not in what is left of it. -/
theorem trim_append_of_blank (hds : ∀ c ∈ ds, isBlank c = true) (cs : List Char) :
    trim (cs ++ ds) = trim cs := by
  have hreversed : ∀ c ∈ ds.reverse, isBlank c = true := fun c hc => hds c (List.mem_reverse.1 hc)
  unfold trim trimBy
  rw [List.dropWhile_append]
  split
  · next hempty =>
    rw [List.isEmpty_iff.1 hempty, List.dropWhile_eq_nil_iff.2 hds]
  · rw [List.reverse_append, List.dropWhile_append_of_pos hreversed]

theorem trim_blank_append (hcs : ∀ c ∈ cs, isBlank c = true) (ds : List Char) :
    trim (cs ++ ds) = trim ds := by
  unfold trim trimBy
  rw [List.dropWhile_append_of_pos hcs]

/-! ## Words -/

/-- A word: there is something to it, and nothing in it is blank. -/
structure IsWord (w : List Char) : Prop where
  ne_nil : w ≠ []
  unblank : ∀ c ∈ w, isBlank c = false

theorem isWord_of_mem_words (h : w ∈ words cs) : IsWord w := by
  obtain ⟨hpiece, hne⟩ := List.mem_filter.1 h
  exact ⟨by simpa using hne, fun c hc => (mem_of_mem_pieces hpiece hc).2⟩

theorem IsWord.isTrimmed (h : IsWord w) : IsTrimmed w :=
  ⟨fun c hc => h.unblank c (List.mem_of_head? hc),
    fun c hc => h.unblank c (List.mem_of_getLast? hc)⟩

theorem IsWord.words_eq (h : IsWord w) : words w = [w] := by
  rw [words, pieces_eq_singleton h.unblank]
  simp [h.ne_nil]

@[simp] theorem words_nil : words [] = [] := rfl

theorem words_append_cons (hc : isBlank c = true) (cs ds : List Char) :
    words (cs ++ c :: ds) = words cs ++ words ds := by
  rw [words, pieces_append_cons hc, List.filter_append]
  rfl

theorem words_cons_of_blank (hc : isBlank c = true) (cs : List Char) : words (c :: cs) = words cs :=
  words_append_cons hc [] cs

theorem words_blank_append (hcs : ∀ c ∈ cs, isBlank c = true) (ds : List Char) :
    words (cs ++ ds) = words ds := by
  induction cs with
  | nil => rfl
  | cons c cs ih =>
    obtain ⟨hc, hcs⟩ := List.forall_mem_cons.1 hcs
    rw [List.cons_append, words_cons_of_blank hc, ih hcs]

/-- What comes after a text and begins with a blank adds its words to those of the text. -/
theorem words_append (hds : ∀ c ∈ ds.head?, isBlank c = true) (cs : List Char) :
    words (cs ++ ds) = words cs ++ words ds := by
  cases ds with
  | nil => simp
  | cons d ds => rw [words_append_cons (hds d rfl), words_cons_of_blank (hds d rfl)]

theorem flatten_words (cs : List Char) : (words cs).flatten = cs.filter fun c => !isBlank c := by
  rw [words, List.flatten_filter_not_isEmpty, flatten_pieces]

theorem words_eq_nil_iff : words cs = [] ↔ ∀ c ∈ cs, isBlank c = true := by
  have hblank : (words cs).flatten = [] ↔ ∀ c ∈ cs, isBlank c = true := by
    simp [flatten_words, List.filter_eq_nil_iff]
  rw [← hblank, List.flatten_eq_nil_iff]
  constructor
  · intro h w hw
    rw [h] at hw
    cases hw
  · intro h
    exact List.eq_nil_iff_forall_not_mem.2 fun w hw => (isWord_of_mem_words hw).ne_nil (h w hw)

theorem words_trim (cs : List Char) : words (trim cs) = words cs := by
  obtain ⟨bs, ds, hbs, hds, hcs⟩ := eq_append_trimBy_append isBlank cs
  have hafter : words (trim cs ++ ds) = words (trim cs) := by
    rw [words_append (fun c hc => hds c (List.mem_of_head? hc)), words_eq_nil_iff.2 hds,
      List.append_nil]
  conv_rhs => rw [hcs, words_blank_append hbs]
  exact hafter.symm

/-! ## Joined words -/

/-- A text whose words stand apart by one blank each, and with none around them. -/
structure IsTidy (cs : List Char) : Prop extends IsTrimmed cs where
  spaced : cs.IsChain fun a b => isBlank a = false ∨ isBlank b = false

theorem IsWord.isTidy (h : IsWord w) : IsTidy w where
  toIsTrimmed := h.isTrimmed
  spaced := List.Pairwise.isChain
    (List.pairwise_of_forall_mem_list fun a ha _ _ => .inl (h.unblank a ha))

/-- A word and a space can be put in front of a tidy text. -/
theorem IsWord.isTidy_append (hw : IsWord w) (hds : IsTidy ds) (hne : ds ≠ []) :
    IsTidy (w ++ ' ' :: ds) := by
  obtain ⟨d, ds, rfl⟩ := List.exists_cons_of_ne_nil hne
  refine ⟨⟨?_, ?_⟩, hw.isTidy.spaced.append (hds.spaced.cons_cons ?_) ?_⟩
  · rw [List.head?_append_of_ne_nil _ hw.ne_nil]
    exact hw.isTrimmed.first
  · rw [List.getLast?_append, List.getLast?_cons_cons]
    simpa using hds.last
  · exact .inr (hds.first d rfl)
  · intro c hc _ _
    exact .inl (hw.isTrimmed.last c hc)

theorem unwords_cons_cons (w v : List Char) (ws : List (List Char)) :
    unwords (w :: v :: ws) = w ++ ' ' :: unwords (v :: ws) := by
  simp [unwords]

theorem unwords_eq_nil_iff (h : ∀ w ∈ ws, IsWord w) : unwords ws = [] ↔ ws = [] := by
  match ws with
  | [] => simp [unwords]
  | [w] => simpa [unwords] using (h w (by simp)).ne_nil
  | w :: v :: ws => simp [unwords_cons_cons]

/-- Joined words fall apart again. -/
theorem words_unwords (h : ∀ w ∈ ws, IsWord w) : words (unwords ws) = ws := by
  induction ws with
  | nil => rfl
  | cons w ws ih =>
    obtain ⟨hw, hws⟩ := List.forall_mem_cons.1 h
    cases ws with
    | nil => simpa [unwords] using hw.words_eq
    | cons v ws =>
      rw [unwords_cons_cons, words_append_cons (by decide), hw.words_eq, ih hws]
      rfl

theorem isTidy_unwords (h : ∀ w ∈ ws, IsWord w) : IsTidy (unwords ws) := by
  induction ws with
  | nil => exact ⟨⟨by simp [unwords], by simp [unwords]⟩, .nil⟩
  | cons w ws ih =>
    obtain ⟨hw, hws⟩ := List.forall_mem_cons.1 h
    cases ws with
    | nil => simpa [unwords] using hw.isTidy
    | cons v ws =>
      rw [unwords_cons_cons]
      refine hw.isTidy_append (ih hws) ?_
      exact mt (unwords_eq_nil_iff hws).1 (List.cons_ne_nil v ws)

end DeckPress.Text
