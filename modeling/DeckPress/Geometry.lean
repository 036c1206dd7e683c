import DeckPress.Scalar
import DeckPress.Validation

/-!
# Boxes on a canvas

All lengths are inches from the upper left corner. The order in which a box is shrunk and shifted
onto the canvas is part of its meaning: a box that is too large starts at the edge.
-/
namespace DeckPress

variable {α : Type}

structure Box (α : Type) where
  x : α
  y : α
  w : α
  h : α
deriving Repr, DecidableEq

structure Canvas (α : Type) where
  width : α
  height : α
deriving Repr, DecidableEq

namespace Box

variable [Scalar α]

def right (b : Box α) : α := b.x + b.w

def bottom (b : Box α) : α := b.y + b.h

/-- The boxes have more than an edge in common. -/
def overlaps (a b : Box α) : Bool :=
  a.x < b.right && b.x < a.right && a.y < b.bottom && b.y < a.bottom

end Box

namespace Canvas

variable [Scalar α]

def standard : Canvas α := ⟨Scalar.whole 10, Scalar.decimal 75 1⟩

def widescreen : Canvas α := ⟨Scalar.decimal 13333 3, Scalar.decimal 75 1⟩

def box (c : Canvas α) : Box α := ⟨Scalar.zero, Scalar.zero, c.width, c.height⟩

/-- Shrinks a box to the canvas, then shifts it onto the canvas. -/
def fit (c : Canvas α) (b : Box α) : Box α :=
  let w := Scalar.least b.w c.width
  let h := Scalar.least b.h c.height
  { x := Scalar.least (Scalar.greatest b.x Scalar.zero) (c.width - w)
    y := Scalar.least (Scalar.greatest b.y Scalar.zero) (c.height - h)
    w := w
    h := h }

end Canvas

/-- A box of positive width and height, in which a layout places its texts. -/
structure Bounds (α : Type) [Scalar α] where
  box : Box α
  w_pos : Scalar.zero < box.w
  h_pos : Scalar.zero < box.h

namespace Bounds

open Validation

variable [Scalar α]

def sizeIssue (key : String) (x : α) : List Issue :=
  if Scalar.zero < x then [] else [⟨[.key key], .notPositive⟩]

def ofBox (b : Box α) : Except Refusal (Bounds α) :=
  if hw : Scalar.zero < b.w then
    if hh : Scalar.zero < b.h then .ok ⟨b, hw, hh⟩
    else .error ⟨"RegionBounds", sizeIssue "h" b.h⟩
  else .error ⟨"RegionBounds", sizeIssue "w" b.w ++ sizeIssue "h" b.h⟩

end Bounds

end DeckPress
