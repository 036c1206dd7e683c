import DeckPress.Picture.Bytes

/-!
# Pictures with layers

After the head come three sections, each with its size: colors, resources and layers. Then follows
the picture itself, whose rows may be packed.
-/
namespace DeckPress.Picture.Layered

/-- Kinds of colors and bits per channel that are known, with the channels that they need. -/
def modes : List ((Nat × Nat) × Nat) :=
  [((0, 1), 1), ((0, 8), 1), ((1, 8), 1), ((2, 8), 1), ((3, 8), 3), ((4, 8), 4), ((7, 8), 1),
    ((8, 8), 1), ((9, 8), 3)]

/-- The number of channels that are read: a fourth one after three colors is opacity. -/
def channels (mode given needed : Nat) : Nat := if mode = 3 ∧ given = 4 then 4 else needed

def padded (place size : Nat) (bs : Bytes) : Nat :=
  let n := min size (bs.length - place)
  place + n + n % 2

def checkResources (bs : Bytes) (limit : Nat) : Nat → Nat → Except Fault Nat
  | 0, _ => .error .unknown
  | left + 1, place => do
    if limit ≤ place then return place
    let _ ← part bs (place + 4) 2
    let nameEnd := padded (place + 6) (1 + (← byteAt bs (place + 6))) bs
    let size ← bigAt bs nameEnd 4
    checkResources bs limit left (padded (nameEnd + 4) size bs)

def afterResources (bs : Bytes) (place : Nat) : Except Fault Nat := do
  let size ← bigAt bs place 4
  if size = 0 then return place + 4
  else checkResources bs (place + 4 + size) bs.length (place + 4)

def afterLayers (bs : Bytes) (place : Nat) : Except Fault Nat := do
  let size ← bigAt bs place 4
  if size ≠ 0 then
    let _ ← part bs (place + 4) 4
  return place + 4 + size

def read (bs : Bytes) : Except Fault Size := do
  expect (begins bs "8BPS")
  expect ((← bigAt bs 4 2) = 1)
  let mode ← bigAt bs 24 2
  let needed ← required (modes.lookup (mode, ← bigAt bs 22 2))
  let given ← bigAt bs 12 2
  if given < needed then throw .unreadable
  let height ← bigAt bs 14 4
  let colors ← bigAt bs 26 4
  let place ← afterResources bs (min (30 + colors) bs.length)
  let place ← afterLayers bs place
  if (← bigAt bs place 2) = 1 then
    let _ ← part bs (place + 2) (2 * channels mode given needed * height)
  Size.checked ⟨← bigAt bs 18 4, height⟩

end DeckPress.Picture.Layered
