import DeckPress.Failure
import DeckPress.Page.Session
import DeckPress.Text.Display

/-!
# What a page shows
-/
namespace DeckPress.Page

/-- The buttons of the page. Versions are numbered from one. -/
inductive Button
  | generate
  | edit
  | version (n : Int)
  | clear
deriving Repr, DecidableEq

def Button.label : Button → String
  | generate => "Generate Deck"
  | edit => "Apply Edits"
  | version n => "v" ++ toString n
  | clear => "Clear Session"

inductive Element
  | markdown (text : String)
  | caption (text : String)
  | warning (text : String)
  | success (text : String)
  | error (text : String)
  | report (r : Report)
  | button (b : Button) (disabled : Bool)
deriving Repr, DecidableEq

namespace Element

def line (text : String) : Element := .markdown (Text.displayed text)

def imageLine (query : String) : Element :=
  .caption (Text.displayed ("Image: " ++ (if query.isEmpty then "topic" else query)))

def ofReport (r : Report) : List Element := [.error (Text.displayed r.message), .report r]

end Element

def spacedBars (s : String) : String :=
  String.ofList (s.toList.flatMap fun c => if c == '|' then [' ', '|', ' '] else [c])

def slideLabel (number : Nat) : String := "Slide " ++ toString number

def previewObject : SlideObject Float → Element
  | .text r => .line ("- " ++ r.text)
  | .image r => .imageLine r.urlOrQuery

def previewTemplated (number : Nat) (s : TemplatedSlide) : List Element :=
  let layout := (s.layout.filter (!·.isEmpty)).getD "default"
  .line ("**" ++ slideLabel number ++ " (" ++ layout ++ "):** " ++ s.title) ::
    (if s.content.isEmpty then [] else [.line (spacedBars s.content)]) ++
    (s.imageQuery.map Element.imageLine).toList

def previewSlide (number : Nat) : Slide Float → List Element
  | .templated s => .line "---" :: previewTemplated number s
  | .generic objects =>
    .line "---" :: .line ("**" ++ slideLabel number ++ "**") :: objects.map previewObject

def previewSlides (number : Nat) : List (Slide Float) → List Element
  | [] => []
  | s :: ss => previewSlide number s ++ previewSlides (number + 1) ss

def preview (d : Deck Float) : List Element :=
  .line "### Text Preview" :: previewSlides 1 d.slides ++
    [.line "### Actions", .line "#### Edit Instructions"]

end DeckPress.Page
