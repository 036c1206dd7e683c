/-!
# Doubles as exact numbers

A finite double is a whole number times a power of two. From this form follow its whole part and
the exact comparison with an integer of any size.
-/
namespace DeckPress.Number

/-- The number `mantissa · 2 ^ exponent`. -/
structure Binary where
  mantissa : Nat
  exponent : Int
deriving Repr, DecidableEq

/-- The leading bit that a double does not store: two to the power of 52. -/
def implicitBit : Nat := 0x10000000000000

def magnitude (x : Float) : Binary :=
  let bits := x.toBits.toNat
  let field : Nat := bits / implicitBit % 2048
  let fraction : Nat := bits % implicitBit
  if field = 0 then ⟨fraction, -1074⟩ else ⟨fraction + implicitBit, (field : Int) - 1075⟩

def isNegative (x : Float) : Bool := 0x8000000000000000 ≤ x.toBits.toNat

namespace Binary

def floor (b : Binary) : Nat :=
  match b.exponent with
  | .ofNat e => b.mantissa * Nat.pow 2 e
  | .negSucc e => b.mantissa / Nat.pow 2 (e + 1)

def isWhole (b : Binary) : Bool :=
  match b.exponent with
  | .ofNat _ => true
  | .negSucc e => b.mantissa % Nat.pow 2 (e + 1) = 0

/-- The whole number next to the value; of two equally near ones the even one. -/
def nearest (b : Binary) : Nat :=
  let twice : Binary := { b with exponent := b.exponent + 1 }
  if twice.isWhole && !b.isWhole then b.floor + b.floor % 2 else (twice.floor + 1) / 2

end Binary

def truncated (x : Float) : Int :=
  let n : Int := (magnitude x).floor
  if isNegative x then -n else n

def nearest (x : Float) : Int :=
  let n : Int := (magnitude x).nearest
  if isNegative x then -n else n

def isWhole (x : Float) : Bool := x.isFinite && (magnitude x).isWhole

/-- The integer is below the double, compared exactly. -/
def intBelow (n : Int) (x : Float) : Bool :=
  if x.isNaN then false
  else if x.isInf then !isNegative x
  else n < truncated x || (n == truncated x && !isNegative x && !isWhole x)

def belowInt (x : Float) (n : Int) : Bool :=
  if x.isNaN then false
  else if x.isInf then isNegative x
  else truncated x < n || (n == truncated x && isNegative x && !isWhole x)

/-- The nearest double, unless the integer lies beyond the largest finite one. -/
def ofInt? (n : Int) : Option Float :=
  let x := Float.ofInt n
  if x.isInf then none else some x

end DeckPress.Number
