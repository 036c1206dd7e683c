import DeckPress.Picture.Bytes

/-!
# Textures

Pictures that are made to cover a surface. Their pixels come in many packed forms; a form that
nobody can draw is an error.
-/
namespace DeckPress.Picture.Texture

def blp (bs : Bytes) : Except Fault Size := do
  expect (begins bs "BLP1" || begins bs "BLP2")
  let _ ← part bs 0 (if begins bs "BLP1" then 24 else 20)
  Size.checked ⟨← littleAt bs 12 4, ← littleAt bs 16 4⟩

def packings : List String :=
  ["DXT1", "DXT3", "DXT5", "BC4U", "ATI1", "BC5S", "BC5U", "ATI2"]

def packingNumbers : List Nat :=
  [27, 28, 29, 70, 71, 73, 74, 76, 77, 79, 80, 82, 83, 84, 95, 96, 97, 98, 99]

/-- A form that is given by its name, or by its number after the head. -/
def checkPacking (name rest : Bytes) : Except Fault Unit := do
  if name == ascii "DX10" then
    if !packingNumbers.contains (← littleAt rest 0 4) then throw .foreignPixels
  else if !(packings.map ascii).contains name then throw .foreignPixels

def hasFlag (flags place : Nat) : Bool := flags / place % 2 = 1

def surfaceHead : Nat := 120

def surfaceStart : Nat := 8

/-- How the pixels of a surface are given: as colors, as light, by a palette, or packed. -/
def checkSurface (head rest : Bytes) : Except Fault Unit := do
  let flags ← littleAt head 72 4
  let bits ← littleAt head 80 4
  if hasFlag flags 0x40 then return
  else if hasFlag flags 0x20000 then
    if !(bits = 8 || (bits = 16 && hasFlag flags 1)) then throw .unreadable
  else if hasFlag flags 0x20 then return
  else if hasFlag flags 4 then checkPacking (← part head 76 4) rest
  else throw .foreignPixels

def dds (bs : Bytes) : Except Fault Size := do
  expect (begins bs "DDS ")
  if (← littleAt bs 4 4) ≠ surfaceHead + 4 then throw .unreadable
  let head ← present (part? bs surfaceStart surfaceHead)
  checkSurface head (bs.drop (surfaceStart + surfaceHead))
  Size.checked ⟨← littleAt head 8 4, ← littleAt head 4 4⟩

def ftex (bs : Bytes) : Except Fault Size := do
  expect (begins bs "FTEX")
  let width ← signedLittleAt bs 8 4
  let height ← signedLittleAt bs 12 4
  if (← signedLittleAt bs 20 4) ≠ 1 then throw .manyPixels
  let form ← signedLittleAt bs 24 4
  let place ← signedLittleAt bs 28 4
  if place < 0 then throw (.damaged ("negative seek value " ++ toString place))
  let _ ← part bs place.toNat 4
  if form ≠ 0 ∧ form ≠ 1 then
    throw (.damaged ("Invalid texture compression format: " ++ toString form))
  Size.ofInts width height

end DeckPress.Picture.Texture
