import DeckPress.Compiler
import DeckPress.Text.Capital

/-!
# Settings

Settings are read from environment variables. Keys are cleaned of what comes with copying them,
all other values of blanks; a value that is there but blank is an empty value, not a missing one.
-/
namespace DeckPress

open Text Validation

inductive ImageMode
  | lenient
  | strict
deriving Repr, DecidableEq

namespace ImageMode

def words : List (String × ImageMode) := [("lenient", lenient), ("strict", strict)]

def word : ImageMode → String
  | lenient => "lenient"
  | strict => "strict"

end ImageMode

inductive CanvasChoice
  | standard
  | widescreen
deriving Repr, DecidableEq

namespace CanvasChoice

def words : List (String × CanvasChoice) := [("standard", standard), ("widescreen", widescreen)]

def word : CanvasChoice → String
  | standard => "standard"
  | widescreen => "widescreen"

def canvas {α : Type} [Scalar α] : CanvasChoice → Canvas α
  | standard => .standard
  | widescreen => .widescreen

end CanvasChoice

structure Settings where
  modelKey : String
  model : String
  searchKey : String
  imageMode : ImageMode
  slideModel : SlideModel
  canvas : CanvasChoice
  fallbackUrl : String
  logLevel : String
deriving Repr, DecidableEq

abbrev Environment := List (String × String)

namespace Settings

def defaultModel : String := "gpt-4o-2024-08-06"

/-- White space and quotes of all kinds, as copied keys carry them. -/
def isStray (c : Char) : Bool := [' ', '\t', '\n', '\r', '"', '“', '”', '\''].contains c

def key (env : Environment) (name : String) : String :=
  String.ofList (trimBy isStray ((env.lookup name).getD "").toList)

/-- The value of a variable unless it is missing or empty. -/
def value? (env : Environment) (name : String) : Option String :=
  match env.lookup name with
  | none => none
  | some s => if s.isEmpty then none else some (trimmed s)

def value (env : Environment) (name default : String) : String := (value? env name).getD default

/-- One of some words in any case; the field is named in the issue. -/
def chosen {α : Type} (env : Environment) (name field : String) (words : List (String × α))
    (default : α) : Checked α :=
  match value? env name with
  | none => .valid default
  | some s =>
    match words.lookup (small s) with
    | some a => .valid a
    | none => (Checked.fail (.notAmong (words.map (·.1)))).within (.key field)

def check (env : Environment) : Checked Settings :=
  (fun mode slides canvas =>
    { modelKey := key env "OPENAI_API_KEY"
      model := value env "OPENAI_MODEL" defaultModel
      searchKey := key env "UNSPLASH_ACCESS_KEY"
      imageMode := mode
      slideModel := slides
      canvas := canvas
      fallbackUrl := value env "SLIDECRAFT_FALLBACK_IMAGE_URL" Image.defaultFallback
      logLevel := value env "SLIDECRAFT_LOG_LEVEL" "INFO" })
    <$> chosen env "SLIDECRAFT_IMAGE_MODE" "image_mode" ImageMode.words .lenient
    <*> chosen env "SLIDECRAFT_SLIDE_SCHEMA" "slide_schema" SlideModel.words .templated
    <*> chosen env "SLIDECRAFT_CANVAS" "canvas" CanvasChoice.words .standard

def load (env : Environment) : Except Refusal Settings := (check env).toExcept "Settings"

def isStrict (s : Settings) : Bool := s.imageMode == .strict

def search (s : Settings) : Image.Search where
  accessKey := s.searchKey
  fallbackUrl := s.fallbackUrl
  strict := s.isStrict

/-- The compiler that settings ask for; without a key there is no image search. -/
def compiler {α σ : Type} [Scalar α] (s : Settings)
    (service : Image.Search.Call → StateM σ (Reply String)) : Compiler α σ where
  canvas := s.canvas.canvas
  strict := s.isStrict
  fallbackUrl := s.fallbackUrl
  resolver := if s.searchKey.isEmpty then none else some (s.search.resolver service)

/-- The key for a model service: the given one, else that of the environment. An empty key is
none. -/
def modelKey? (given : Option String) (env : Environment) : Option String :=
  let present (k : String) : Bool := !k.isEmpty
  (given.filter present).orElse fun _ => (env.lookup "OPENAI_API_KEY").filter present

end Settings

end DeckPress
