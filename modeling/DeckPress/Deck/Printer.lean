import DeckPress.Deck
import DeckPress.Json.Printer

/-!
# Printing decks

The text of a deck in which a model is shown it: all fields of all slides, and no topic.
-/
namespace DeckPress

def Length.toJson : Length Float → Json
  | inches x => .float x
  | percent p => .str p.text

def Region.entries (r : Region Float) : Json.Entries :=
  [("x", r.x.toJson), ("y", r.y.toJson), ("w", r.w.toJson), ("h", r.h.toJson)]

def TextRegion.toJson (r : TextRegion Float) : Json :=
  .obj (r.region.entries ++
    [("type", .str "text"), ("text", .str r.text), ("fontSize", .int r.fontSize),
      ("bold", .bool r.bold), ("align", .str r.align.word)])

def ImageRegion.toJson (r : ImageRegion Float) : Json :=
  .obj (r.region.entries ++ [("type", .str "image"), ("urlOrQuery", .str r.urlOrQuery)])

def SlideObject.toJson : SlideObject Float → Json
  | text r => r.toJson
  | image r => r.toJson

def TemplatedSlide.toJson (s : TemplatedSlide) : Json :=
  .obj [("title", .str s.title), ("content", .str s.content),
    ("layout", Json.ofOption .str s.layout), ("imageQuery", Json.ofOption .str s.imageQuery)]

def Slide.toJson : Slide Float → Json
  | generic objects => .obj [("objects", .arr (objects.map SlideObject.toJson))]
  | templated s => s.toJson

namespace Deck

def toJson (d : Deck Float) : Json := .obj [("slides", .arr (d.slides.map Slide.toJson))]

def print (d : Deck Float) : String := d.toJson.print Json.deckStyle

end Deck

end DeckPress
