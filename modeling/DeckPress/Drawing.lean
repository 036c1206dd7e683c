import DeckPress.Deck
import DeckPress.Geometry
import DeckPress.Theme

/-!
# Drawings

A drawing says for every slide what to draw and in which order. All its boxes are in inches, and
its texts are escaped.
-/
namespace DeckPress

inductive VerticalAlign
  | top
  | middle
deriving Repr, DecidableEq

def VerticalAlign.words : List (String × VerticalAlign) := [("top", top), ("middle", middle)]

def VerticalAlign.word : VerticalAlign → String
  | top => "top"
  | middle => "middle"

namespace Drawing

variable {α : Type}

structure Shape (α : Type) where
  kind : Decoration
  box : Box α
  color : String
deriving Repr, DecidableEq

structure Picture (α : Type) where
  url : String
  box : Box α
  isFallback : Bool
deriving Repr, DecidableEq

structure Text (α : Type) where
  text : String
  box : Box α
  fontSize : Int
  bold : Bool
  color : String
  align : Align
  valign : VerticalAlign
  /-- The color behind the text, where it lies on an image. -/
  backdrop : Option String
deriving Repr, DecidableEq

inductive Instruction (α : Type)
  | background (color : String)
  | shape (s : Shape α)
  | picture (p : Picture α)
  | text (t : Text α)
deriving Repr, DecidableEq

structure Slide (α : Type) where
  index : Int
  instructions : List (Instruction α)
deriving Repr, DecidableEq

end Drawing

structure Drawing (α : Type) where
  canvas : Canvas α
  slides : List (Drawing.Slide α)
deriving Repr, DecidableEq

end DeckPress
