import DeckPress.Picture.Bytes

/-!
# Pictures of microscopes

The head consists of single precision numbers, with the first or the last byte most significant.
Some of them have to be whole numbers that agree.
-/
namespace DeckPress.Picture.Spider

/-- The number that four bytes stand for: its sign, its digits and the power of two by which they
are multiplied. -/
structure Single where
  isNegative : Bool
  digits : Nat
  exponent : Int

def exponentField (bits : Nat) : Nat := bits / 0x800000 % 256

def digitsField (bits : Nat) : Nat := bits % 0x800000

def Single.ofBits? (bits : Nat) : Option Single :=
  let isNegative := 0x80000000 ≤ bits
  if exponentField bits = 255 then none
  else if exponentField bits = 0 then some ⟨isNegative, digitsField bits, -149⟩
  else some ⟨isNegative, digitsField bits + 0x800000, (exponentField bits : Int) - 150⟩

namespace Single

def truncated (x : Single) : Int :=
  let n : Nat :=
    match x.exponent with
    | .ofNat e => x.digits * Nat.pow 2 e
    | .negSucc e => x.digits / Nat.pow 2 (e + 1)
  if x.isNegative then -(n : Int) else n

def isWhole (x : Single) : Bool :=
  match x.exponent with
  | .ofNat _ => true
  | .negSucc e => x.digits % Nat.pow 2 (e + 1) = 0

end Single

/-- The bits of the numbers of a head, counted from one. -/
abbrev Head := List Nat

def headSize : Nat := 27

def head (number : Bytes → Nat) (bs : Bytes) : Head :=
  (List.range headSize).map fun k => number ((bs.drop (4 * k)).take 4)

def Head.bits (h : Head) (k : Nat) : Nat := h.getD (k - 1) 0

def Head.get? (h : Head) (k : Nat) : Option Single := Single.ofBits? (h.bits k)

def Head.whole? (h : Head) (k : Nat) : Option Int := do
  let x ← h.get? k
  if x.isWhole then some x.truncated else none

def wholePlaces : List Nat := [1, 2, 5, 12, 13, 22, 23]

def kinds : List Int := [1, 3, -11, -12, -21, -22]

/-- The size of the head is told as a whole and as the number and the size of its records. -/
def Head.isValid (h : Head) : Bool :=
  wholePlaces.all (fun k => (h.whole? k).isSome) &&
    kinds.contains ((h.whole? 5).getD 0) &&
    (h.whole? 22).getD 0 ≠ 0 &&
    (h.whole? 22).getD 0 = (h.whole? 13).getD 0 * (h.whole? 23).getD 0

def Head.number (h : Head) (k : Nat) : Except Fault Int :=
  match h.get? k with
  | some x => .ok x.truncated
  | none =>
    if digitsField (h.bits k) = 0 then .error .endless
    else .error (.damaged "cannot convert float NaN to integer")

/-- Besides single pictures there are stacks, which tell their number of pictures, and parts of a
stack, which do not tell where they are. -/
def Head.checkStack (h : Head) : Except Fault Unit := do
  let stack ← h.number 24
  let image ← h.number 27
  if 0 < stack ∧ image = 0 then
    let _ ← h.number 26
  else if stack = 0 ∧ 0 < image then throw .partOfStack
  else expect (stack = 0 && image = 0)

def read (bs : Bytes) : Except Fault Size := do
  let data ← part bs 0 (4 * headSize)
  let h ← required ([head big data, head little data].find? Head.isValid)
  expect ((← h.number 5) = 1)
  h.checkStack
  Size.ofInts (← h.number 12) (← h.number 2)

end DeckPress.Picture.Spider
