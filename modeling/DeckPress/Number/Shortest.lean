import DeckPress.Number.Binary

/-!
# Shortest decimals

The decimal with the fewest digits among those that read back as a given double, and among these
the nearest one.
-/
namespace DeckPress.Number

/-- The number `digits · 10 ^ exponent`. -/
structure Decimal where
  digits : Nat
  exponent : Int
deriving Repr, DecidableEq

/-- The numbers that round to one double: those between `low` and `high`, in units of
`2 ^ unit`; the ends belong to them if `closed` holds. -/
structure Window where
  low : Nat
  value : Nat
  high : Nat
  unit : Int
  closed : Bool
deriving Repr

namespace Window

/-- The gap below a power of two is half as wide as the gap above it. -/
def around (b : Binary) : Window where
  low := if b.mantissa = implicitBit ∧ -1074 < b.exponent then 4 * b.mantissa - 1 else 4 * b.mantissa - 2
  value := 4 * b.mantissa
  high := 4 * b.mantissa + 2
  unit := b.exponent - 2
  closed := b.mantissa % 2 = 0

/-- Factors `(l, r)` such that `d · 10 ^ k` compares with `x · 2 ^ unit` as `d · l` with `x · r`. -/
def factors (w : Window) (k : Int) : Nat × Nat :=
  (Nat.pow 10 k.toNat * Nat.pow 2 (-w.unit).toNat,
    Nat.pow 2 w.unit.toNat * Nat.pow 10 (-k).toNat)

def holds (w : Window) (k : Int) (d : Nat) : Bool :=
  let (l, r) := w.factors k
  if w.closed then w.low * r ≤ d * l && d * l ≤ w.high * r
  else w.low * r < d * l && d * l < w.high * r

/-- Of the two multiples of `10 ^ k` next to the value, the nearest that rounds to the double; of
two equally near ones the even multiple. -/
def onGrid (w : Window) (k : Int) : Option Decimal :=
  let (l, r) := w.factors k
  let d := w.value * r / l
  match w.holds k d, w.holds k (d + 1) with
  | true, true =>
    let before := w.value * r - d * l
    let after := (d + 1) * l - w.value * r
    if before < after ∨ (before = after ∧ d % 2 = 0) then some ⟨d, k⟩ else some ⟨d + 1, k⟩
  | true, false => some ⟨d, k⟩
  | false, true => some ⟨d + 1, k⟩
  | false, false => none

def leading (w : Window) : Int :=
  let guess := (w.value.log2 + w.unit) * 30103 / 100000
  let reached := (List.range 3).filter fun (i : Nat) =>
    let (l, r) := w.factors (guess + i)
    l ≤ w.value * r
  guess - 1 + reached.length

/-- Seventeen digits suffice for every double. -/
def shortest (w : Window) : Decimal :=
  ((List.range 17).findSome? fun (i : Nat) => w.onGrid (w.leading - i)).getD ⟨0, 0⟩

end Window

def shortest (x : Float) : Decimal := (Window.around (magnitude x)).shortest

end DeckPress.Number
