import DeckPress.Number.Numeral

/-!
# Scalars

What the geometry of slides asks of its numbers. It is written once over any `Scalar`: programs
run it with doubles, and its laws are stated with exact rationals.
-/
namespace DeckPress

inductive NonFinite
  | notANumber
  | infinite (negative : Bool)
deriving Repr, DecidableEq

class Scalar (α : Type) extends Add α, Sub α, Mul α, Div α, LT α where
  decideLT : (a b : α) → Decidable (a < b)
  /-- The number `digits / 10 ^ places`, or the one nearest to it. -/
  decimal : (digits places : Nat) → α
  /-- How a number fails to be finite, if it does. -/
  nonFinite? : α → Option NonFinite

namespace Scalar

variable {α : Type} [Scalar α]

instance : DecidableLT α := decideLT

def whole (n : Nat) : α := decimal n 0

def zero : α := whole 0

/-- The smaller of two numbers; the first one if neither is smaller. -/
def least (a b : α) : α := if b < a then b else a

def greatest (a b : α) : α := if a < b then b else a

end Scalar

instance : Scalar Float where
  decideLT := Float.decLt
  decimal digits places := Number.Numeral.magnitude digits (-places)
  nonFinite? x :=
    if x.isNaN then some .notANumber
    else if x.isInf then some (.infinite (x < 0))
    else none

end DeckPress
