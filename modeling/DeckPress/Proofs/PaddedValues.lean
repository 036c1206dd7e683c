import DeckPress.Proofs.Words
import DeckPress.Settings

/-!
# Padded values of an environment

A variable with an empty value counts as missing, and the blanks around a value are dropped. But
emptiness is asked about first, so a value of nothing but blanks is there and empty: where a word has
to be chosen it is a wrong one, and elsewhere it stands in the place of the default. All other
padding makes no difference. What an environment comes to is told by its wrong choices; without any
it is read field by field.
-/
namespace DeckPress.Settings

open Text Validation

/-! ## Wrong choices -/

/-- A variable that chooses a word: its name, the field that it sets, and the words. -/
structure Choice where
  name : String
  field : String
  words : List String
deriving DecidableEq

/-- The variables that choose a word, in the order in which they are checked. -/
def choices : List Choice :=
  [⟨"SLIDECRAFT_IMAGE_MODE", "image_mode", ImageMode.words.map (·.1)⟩,
    ⟨"SLIDECRAFT_SLIDE_SCHEMA", "slide_schema", SlideModel.words.map (·.1)⟩,
    ⟨"SLIDECRAFT_CANVAS", "canvas", CanvasChoice.words.map (·.1)⟩]

namespace Choice

def issue (c : Choice) : Issue := ⟨[.key c.field], .notAmong c.words⟩

def isWrong (env : Environment) (c : Choice) : Bool :=
  (value? env c.name).any fun s => !c.words.contains (small s)

end Choice

/-- The issues with an environment. -/
def wrongChoices (env : Environment) : List Issue :=
  (choices.filter (·.isWrong env)).map Choice.issue

/-- What a value of words means; the default if it is missing or wrong. -/
def meaning {α : Type} (env : Environment) (name : String) (words : List (String × α))
    (default : α) : α :=
  ((value? env name).bind fun s => words.lookup (small s)).getD default

def read (env : Environment) : Settings where
  modelKey := key env "OPENAI_API_KEY"
  model := value env "OPENAI_MODEL" defaultModel
  searchKey := key env "UNSPLASH_ACCESS_KEY"
  imageMode := meaning env "SLIDECRAFT_IMAGE_MODE" ImageMode.words .lenient
  slideModel := meaning env "SLIDECRAFT_SLIDE_SCHEMA" SlideModel.words .templated
  canvas := meaning env "SLIDECRAFT_CANVAS" CanvasChoice.words .standard
  fallbackUrl := value env "SLIDECRAFT_FALLBACK_IMAGE_URL" Image.defaultFallback
  logLevel := value env "SLIDECRAFT_LOG_LEVEL" "INFO"

theorem chosen_eq {α : Type} (env : Environment) (name field : String) (words : List (String × α))
    (default : α) :
    chosen env name field words default =
      if (Choice.mk name field (words.map (·.1))).isWrong env then
        .invalid [(Choice.mk name field (words.map (·.1))).issue]
      else .valid (meaning env name words default) := by
  unfold chosen meaning Choice.isWrong
  cases value? env name with
  | none => rfl
  | some s =>
    have hwords : (words.map (·.1)).contains (small s) = (words.lookup (small s)).isSome := by
      rw [Bool.eq_iff_iff, List.contains_iff_mem, List.lookup_isSome_iff]
      simp
    simp only [Option.any_some, Option.bind_some, hwords]
    cases words.lookup (small s) <;> rfl

/-- An environment comes to the settings that it is read as, unless it has wrong choices. -/
theorem load_eq (env : Environment) :
    load env = if (wrongChoices env).isEmpty then .ok (read env)
      else .error ⟨"Settings", wrongChoices env⟩ := by
  unfold load check
  simp only [chosen_eq, wrongChoices, choices, List.filter_cons, List.filter_nil]
  split <;> split <;> split <;> rfl

/-! ## Padding -/

/-- The variables whose texts are taken as they are, but for the blanks around them. -/
def texts : List String :=
  ["OPENAI_MODEL", "SLIDECRAFT_FALLBACK_IMAGE_URL", "SLIDECRAFT_LOG_LEVEL"]

def isTrimmable (name : String) : Bool := (texts ++ choices.map (·.name)).contains name

/-- The environment without the blanks around the values of texts and choices. -/
def unpadded (env : Environment) : Environment :=
  env.map fun e => (e.1, if isTrimmable e.1 then trimmed e.2 else e.2)

/-- A value that is there, but nothing except blanks. -/
def IsBlankAt (env : Environment) (name : String) : Prop :=
  ∃ s, env.lookup name = some s ∧ s ≠ "" ∧ ∀ c ∈ s.toList, isBlank c = true

variable {env : Environment} {name : String}

theorem lookup_unpadded (env : Environment) (name : String) :
    (unpadded env).lookup name =
      (env.lookup name).map fun s => if isTrimmable name then trimmed s else s := by
  unfold unpadded
  induction env with
  | nil => rfl
  | cons e env ih =>
    rw [List.map_cons, List.lookup_cons, List.lookup_cons]
    cases h : name == e.1 with
    | true => simp [eq_of_beq h]
    | false => exact ih

theorem key_unpadded (h : isTrimmable name = false) : key (unpadded env) name = key env name := by
  simp [key, lookup_unpadded, h]

theorem isBlankAt_iff : IsBlankAt env name ↔ value? env name = some "" := by
  unfold IsBlankAt value?
  cases env.lookup name with
  | none => simp
  | some s =>
    dsimp only
    split
    · next h => simp [String.isEmpty_iff.1 h]
    · next h =>
      have hne : s ≠ "" := mt String.isEmpty_iff.2 h
      simp [hne, trimmed_eq_empty_iff]

theorem value?_unpadded (h : isTrimmable name = true) :
    value? (unpadded env) name =
      if value? env name = some "" then none else value? env name := by
  unfold value?
  rw [lookup_unpadded]
  cases env.lookup name with
  | none => rfl
  | some s =>
    by_cases hs : s = ""
    · simp [hs, h, show trimmed "" = "" by decide]
    · by_cases ht : trimmed s = "" <;> simp [hs, h, ht]

theorem value?_unpadded_of_isBlankAt (h : isTrimmable name = true) (hblank : IsBlankAt env name) :
    value? (unpadded env) name = none := by
  rw [value?_unpadded h, if_pos (isBlankAt_iff.1 hblank)]

theorem value?_unpadded_of_not (h : isTrimmable name = true) (hblank : ¬IsBlankAt env name) :
    value? (unpadded env) name = value? env name := by
  rw [value?_unpadded h, if_neg (mt isBlankAt_iff.2 hblank)]

/-- A text other than the default stands for itself, and one of blanks for an empty text. -/
theorem value_unpadded_iff {default : String} (h : isTrimmable name = true) (hne : default ≠ "") :
    value (unpadded env) name default = value env name default ↔ ¬IsBlankAt env name := by
  unfold value
  constructor
  · intro hsame hblank
    rw [value?_unpadded_of_isBlankAt h hblank, isBlankAt_iff.1 hblank] at hsame
    exact hne hsame
  · intro hblank
    rw [value?_unpadded_of_not h hblank]

theorem issue_mem_wrongChoices {c : Choice} (hc : c ∈ choices) :
    c.issue ∈ wrongChoices env ↔ c.isWrong env = true := by
  have hinjective : ∀ d ∈ choices, d.issue = c.issue → d = c := by
    revert c
    decide
  simp only [wrongChoices, List.mem_map, List.mem_filter]
  constructor
  · rintro ⟨d, ⟨hd, hwrong⟩, hissue⟩
    rwa [hinjective d hd hissue] at hwrong
  · intro hwrong
    exact ⟨c, ⟨hc, hwrong⟩, rfl⟩

theorem isTrimmable_of_mem_choices {c : Choice} (hc : c ∈ choices) : isTrimmable c.name = true := by
  revert c
  decide

theorem wrongChoices_unpadded_iff :
    wrongChoices (unpadded env) = wrongChoices env ↔ ∀ c ∈ choices, ¬IsBlankAt env c.name := by
  constructor
  · intro hsame c hc hblank
    have hright : c.isWrong (unpadded env) = false := by
      simp [Choice.isWrong, value?_unpadded_of_isBlankAt (isTrimmable_of_mem_choices hc) hblank]
    have hwrong : c.isWrong env = true := by
      -- Of all words of all choices none is empty.
      rw [Choice.isWrong, isBlankAt_iff.1 hblank]
      clear hsame hright hblank
      revert c
      decide
    have hmem := (issue_mem_wrongChoices hc).2 hwrong
    rw [← hsame, issue_mem_wrongChoices hc, hright] at hmem
    cases hmem
  · intro hblank
    unfold wrongChoices
    refine congrArg _ (List.filter_congr fun c hc => ?_)
    rw [Choice.isWrong, value?_unpadded_of_not (isTrimmable_of_mem_choices hc) (hblank c hc),
      Choice.isWrong]

theorem read_unpadded_iff (hchoices : ∀ c ∈ choices, ¬IsBlankAt env c.name) :
    read (unpadded env) = read env ↔ ∀ name ∈ texts, ¬IsBlankAt env name := by
  have hmeaning {α : Type} {words : List (String × α)} {default : α} {name : String}
      (hname : name ∈ choices.map (·.name)) :
      meaning (unpadded env) name words default = meaning env name words default := by
    obtain ⟨c, hc, rfl⟩ := List.mem_map.1 hname
    rw [meaning, value?_unpadded_of_not (isTrimmable_of_mem_choices hc) (hchoices c hc), meaning]
  simp (disch := decide) only [read, mk.injEq, key_unpadded, hmeaning, value_unpadded_iff, true_and]
  simp [texts]

theorem load_of_isEmpty (h : (wrongChoices env).isEmpty = true) : load env = .ok (read env) := by
  rw [load_eq, if_pos h]

theorem load_of_not_isEmpty (h : ¬(wrongChoices env).isEmpty = true) :
    load env = .error ⟨"Settings", wrongChoices env⟩ := by
  rw [load_eq, if_neg h]

/-- What an environment comes to tells its wrong choices. -/
theorem wrongChoices_of_load {env' : Environment} (h : load env = load env') :
    wrongChoices env = wrongChoices env' := by
  by_cases hempty : (wrongChoices env).isEmpty = true <;>
    by_cases hempty' : (wrongChoices env').isEmpty = true
  · rw [List.isEmpty_iff.1 hempty, List.isEmpty_iff.1 hempty']
  · rw [load_of_isEmpty hempty, load_of_not_isEmpty hempty'] at h
    cases h
  · rw [load_of_not_isEmpty hempty, load_of_isEmpty hempty'] at h
    cases h
  · rw [load_of_not_isEmpty hempty, load_of_not_isEmpty hempty'] at h
    injection h with h
    injection h

/-- Padding makes a difference where there is nothing else in a value: for a choice always, and for a
text unless the environment is refused anyway. -/
theorem load_unpadded_iff (env : Environment) :
    load (unpadded env) = load env ↔
      (∀ c ∈ choices, ¬IsBlankAt env c.name) ∧
        ((∃ r, load env = .error r) ∨ ∀ name ∈ texts, ¬IsBlankAt env name) := by
  constructor
  · intro h
    have hchoices := wrongChoices_unpadded_iff.1 (wrongChoices_of_load h)
    refine ⟨hchoices, ?_⟩
    by_cases hempty : (wrongChoices env).isEmpty = true
    · have hempty' : (wrongChoices (unpadded env)).isEmpty = true := by
        rwa [wrongChoices_unpadded_iff.2 hchoices]
      rw [load_of_isEmpty hempty, load_of_isEmpty hempty'] at h
      injection h with h
      exact .inr ((read_unpadded_iff hchoices).1 h)
    · exact .inl ⟨_, load_of_not_isEmpty hempty⟩
  · rintro ⟨hchoices, hrest⟩
    have hwrong := wrongChoices_unpadded_iff.2 hchoices
    by_cases hempty : (wrongChoices env).isEmpty = true
    · obtain ⟨r, hr⟩ | htexts := hrest
      · rw [load_of_isEmpty hempty] at hr
        cases hr
      · rw [load_of_isEmpty hempty, load_of_isEmpty (hwrong ▸ hempty),
          (read_unpadded_iff hchoices).2 htexts]
    · rw [load_of_not_isEmpty hempty, load_of_not_isEmpty (hwrong ▸ hempty), hwrong]

def blankModel : Environment := [("OPENAI_MODEL", "  ")]

def blankMode : Environment := [("SLIDECRAFT_IMAGE_MODE", "\t")]

/-- A model of blanks is an empty name, and a mode of blanks is refused; without the blanks the
defaults stand. -/
theorem blank_values_replace_defaults :
    load (unpadded blankModel) ≠ load blankModel ∧
      (load blankModel).map (·.model) = .ok "" ∧
      (load (unpadded blankModel)).map (·.model) = .ok defaultModel ∧
      load blankMode =
        .error ⟨"Settings", [⟨[.key "image_mode"], .notAmong ["lenient", "strict"]⟩]⟩ ∧
      (load (unpadded blankMode)).map (·.imageMode) = .ok .lenient := by
  decide +kernel

end DeckPress.Settings
