import DeckPress.Geometry
import DeckPress.Json
import DeckPress.Length

/-!
# Quantities

A quantity is a whole number of any size or a double. Whole numbers are added, subtracted and
multiplied exactly and compared exactly with doubles; everything else is done with doubles. The
operations whose names end in a question mark fail where a whole number beyond all doubles is to
be taken for one.
-/
namespace DeckPress

open Number

inductive Quantity
  | whole (n : Int)
  | real (x : Float)
deriving Repr, DecidableEq

namespace Quantity

def toFloat : Quantity → Float
  | whole n => Float.ofInt n
  | real x => x

/-- An operation on two quantities: exact on whole numbers, else with doubles. -/
def combine (onInt : Int → Int → Int) (onFloat : Float → Float → Float) :
    Quantity → Quantity → Quantity
  | whole m, whole n => whole (onInt m n)
  | a, b => real (onFloat a.toFloat b.toFloat)

def below : Quantity → Quantity → Bool
  | whole m, whole n => m < n
  | whole m, real y => intBelow m y
  | real x, whole n => belowInt x n
  | real x, real y => x < y

instance : Scalar Quantity where
  add := combine (· + ·) (· + ·)
  sub := combine (· - ·) (· - ·)
  mul := combine (· * ·) (· * ·)
  div a b := real (a.toFloat / b.toFloat)
  lt a b := below a b = true
  decideLT a b := inferInstanceAs (Decidable (below a b = true))
  decimal digits places := real (Scalar.decimal digits places)
  nonFinite?
    | whole _ => none
    | real x => Scalar.nonFinite? x

/-- The double for a quantity; a whole number beyond all doubles has none. -/
def toFloat? : Quantity → Option Float
  | whole n => ofInt? n
  | real x => some x

def combine? (onInt : Int → Int → Int) (onFloat : Float → Float → Float) :
    Quantity → Quantity → Option Quantity
  | whole m, whole n => some (whole (onInt m n))
  | a, b => return real (onFloat (← a.toFloat?) (← b.toFloat?))

def add? : Quantity → Quantity → Option Quantity := combine? (· + ·) (· + ·)

def sub? : Quantity → Quantity → Option Quantity := combine? (· - ·) (· - ·)

def mul? : Quantity → Quantity → Option Quantity := combine? (· * ·) (· * ·)

end Quantity

/-- Whether two boxes overlap. A sum that is not needed cannot fail. -/
def Box.overlaps? (a b : Box Quantity) : Option Bool := do
  if !Quantity.below a.x (← b.x.add? b.w) then return false
  if !Quantity.below b.x (← a.x.add? a.w) then return false
  if !Quantity.below a.y (← b.y.add? b.h) then return false
  return Quantity.below b.y (← a.y.add? a.h)

def Canvas.fit? (c : Canvas Quantity) (b : Box Quantity) : Option (Box Quantity) := do
  let w := Scalar.least b.w c.width
  let h := Scalar.least b.h c.height
  return {
    x := Scalar.least (Scalar.greatest b.x Scalar.zero) (← c.width.sub? w)
    y := Scalar.least (Scalar.greatest b.y Scalar.zero) (← c.height.sub? h)
    w := w
    h := h }

namespace Length

def onExtent? (extent : Quantity) : Length Quantity → Option Quantity
  | inches x => some x
  | percent p => Quantity.mul? p.share extent

inductive Refusal
  | fault (f : Fault)
  | tooLarge
  | noNumber
deriving Repr, DecidableEq

def ofFloat : Length Float → Length Quantity
  | inches x => inches (.real x)
  | percent p => percent p

def checkWhole (positive : Bool) (n : Int) : Except Refusal (Length Quantity) :=
  match ofInt? n with
  | none => .error .tooLarge
  | some _ => (checkInches positive (.whole n)).mapError .fault

def checkValue (positive : Bool) : Json → Except Refusal (Length Quantity)
  | .float x => (checkInches positive (.real x)).mapError .fault
  | .str s => ((checkText positive s).map ofFloat).mapError .fault
  | .int n => checkWhole positive n
  | .bool b => checkWhole positive (if b then 1 else 0)
  | _ => .error .noNumber

end Length

end DeckPress
