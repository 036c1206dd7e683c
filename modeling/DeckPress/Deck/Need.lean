import DeckPress.Deck
import DeckPress.Image

/-!
# Images that a deck needs

Every image of a slide is asked for by a query: its own, else the topic of the deck, else the
title of the slide if it has one.
-/
namespace DeckPress

inductive Need.Place
  | query
  | object (position : Nat)
deriving Repr, DecidableEq

def Need.Place.text : Need.Place → String
  | query => "imageQuery"
  | object position => "objects[" ++ toString position ++ "]"

/-- An image that a slide needs: for which place, by which query, and what the slide says. -/
structure Need where
  place : Need.Place
  query : String
  text : String
deriving Repr, DecidableEq

namespace Need

def isDirect (n : Need) : Bool := Image.isDirectUrl n.query

def request (n : Need) (slide : Nat) : Image.Request := ⟨n.query, slide, n.text⟩

end Need

/-- The first text unless it is empty, else the second. -/
def orElse (a b : String) : String := if a.isEmpty then b else a

namespace Slide

variable {α : Type}

def objectsText (objects : List (SlideObject α)) : String :=
  " ".intercalate ((objects.filterMap SlideObject.text?).map TextRegion.text)

def objectNeeds (topic text : String) (position : Nat) : List (SlideObject α) → List Need
  | [] => []
  | .text _ :: os => objectNeeds topic text (position + 1) os
  | .image r :: os =>
    ⟨.object position, orElse r.urlOrQuery topic, text⟩ :: objectNeeds topic text (position + 1) os

def templatedNeeds (topic : String) (s : TemplatedSlide) : List Need :=
  match s.imageQuery with
  | none => []
  | some q => [⟨.query, orElse q (orElse topic s.title), s.title ++ " " ++ s.content⟩]

/-- The images that a slide needs, in the order in which they are looked up. -/
def needs (topic : Option String) : Slide α → List Need
  | generic objects => objectNeeds (topic.getD "") (objectsText objects) 0 objects
  | templated s => templatedNeeds (topic.getD "") s

end Slide

end DeckPress
