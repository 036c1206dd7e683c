import DeckPress.Length

/-!
# Decks

A deck is a list of slides. A generic slide places its texts and images itself; a templated slide
gives its content and leaves the placing to a layout.
-/
namespace DeckPress

inductive Align
  | left
  | center
  | right
deriving Repr, DecidableEq

def Align.words : List (String × Align) := [("left", left), ("center", center), ("right", right)]

def Align.word : Align → String
  | left => "left"
  | center => "center"
  | right => "right"

structure Region (α : Type) where
  x : Length α
  y : Length α
  w : Length α
  h : Length α
deriving Repr, DecidableEq

structure TextRegion (α : Type) where
  region : Region α
  text : String
  fontSize : Int
  bold : Bool
  align : Align
deriving Repr, DecidableEq

structure ImageRegion (α : Type) where
  region : Region α
  urlOrQuery : String
deriving Repr, DecidableEq

inductive SlideObject (α : Type)
  | text (r : TextRegion α)
  | image (r : ImageRegion α)
deriving Repr, DecidableEq

structure TemplatedSlide where
  title : String
  content : String
  /-- Advice only: a layout that is not known stands for the default one. -/
  layout : Option String
  /-- What to show in an image; an empty text asks for an image of the deck's topic. -/
  imageQuery : Option String
deriving Repr, DecidableEq

inductive Slide (α : Type)
  | generic (objects : List (SlideObject α))
  | templated (s : TemplatedSlide)
deriving Repr, DecidableEq

inductive SlideModel
  | templated
  | generic
deriving Repr, DecidableEq

def SlideModel.words : List (String × SlideModel) :=
  [("templated", templated), ("generic", generic)]

def SlideModel.word : SlideModel → String
  | templated => "templated"
  | generic => "generic"

structure Deck (α : Type) where
  slides : List (Slide α)
  topic : Option String
deriving Repr, DecidableEq

namespace SlideObject

variable {α : Type}

def text? : SlideObject α → Option (TextRegion α)
  | text r => some r
  | image _ => none

def image? : SlideObject α → Option (ImageRegion α)
  | text _ => none
  | image r => some r

end SlideObject

def Slide.model {α : Type} : Slide α → SlideModel
  | generic _ => .generic
  | templated _ => .templated

end DeckPress
