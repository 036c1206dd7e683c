import DeckPress.Geometry
import DeckPress.Validation.Field
import DeckPress.Validation.Atom

/-!
# Reading boxes and canvases
-/
namespace DeckPress

open Validation

namespace Canvas

/-- A canvas of any size; other keys are ignored. -/
def check (o : Origin) : Json → Checked (Canvas Float) :=
  record o "Canvas" fun es =>
    Canvas.mk <$> Field.required (.plain "width") es number
      <*> Field.required (.plain "height") es number

end Canvas

namespace Box

def entries (es : Json.Entries) (size : Json → Checked Float) : Checked (Box Float) :=
  Box.mk <$> Field.required (.plain "x") es number
    <*> Field.required (.plain "y") es number
    <*> Field.required (.plain "w") es size
    <*> Field.required (.plain "h") es size

end Box

def Bounds.read (v : Json) : Except Refusal (Bounds Float) := do
  let check := record .data "RegionBounds" fun es => Box.entries es positiveNumber
  Bounds.ofBox (← (check v).toExcept "RegionBounds")

end DeckPress
