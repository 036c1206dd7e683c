import DeckPress.Picture.Bytes

/-!
# Bitmaps

A bitmap begins with a head of one of several sizes. In a file of its own another head stands
before it.
-/
namespace DeckPress.Picture.Bitmap

structure Head where
  size : Size
  bits : Nat
  compression : Nat
  /-- The number of colors in the palette; zero if it follows from the bits. -/
  colors : Nat
  density : Density
  masks : List Nat
  headSize : Nat

def shortHead : Nat := 12

def longHeads : List Nat := [40, 52, 56, 64, 108, 124]

def masked : Nat := 3

def readShort (head : Bytes) : Except Fault Head :=
  return {
    size := ⟨← littleAt head 0 2, ← littleAt head 2 2⟩
    bits := ← littleAt head 6 2
    compression := 0
    colors := 0
    density := .unknown
    masks := []
    headSize := shortHead }

/-- A height whose last byte has all bits set counts down from zero. -/
def readHeight (head : Bytes) : Except Fault Nat := do
  let n ← littleAt head 4 4
  return if (← byteAt head 7) = 0xFF then 0x100000000 - n else n

def readMasks (head rest : Bytes) : Except Fault (List Nat) := do
  if head.length < 48 then
    return [← littleAt rest 0 4, ← littleAt rest 4 4, ← littleAt rest 8 4, 0]
  else
    let opacity ← if head.length < 52 then pure 0 else littleAt head 48 4
    return [← littleAt head 36 4, ← littleAt head 40 4, ← littleAt head 44 4, opacity]

/-- Densities are given per metre. -/
def perInch (n : Nat) : Float := Float.ofNat n / 39.3701

def readLong (head rest : Bytes) : Except Fault Head := do
  let compression ← littleAt head 12 4
  return {
    size := ⟨← littleAt head 0 4, ← readHeight head⟩
    bits := ← littleAt head 10 2
    compression := compression
    colors := ← littleAt head 28 4
    density := .ofFloats (perInch (← littleAt head 20 4)) (perInch (← littleAt head 24 4))
    masks := ← if compression = masked then readMasks head rest else pure []
    headSize :=
      if compression = masked && head.length < 48 then head.length + 16 else head.length + 4 }

def anyHead (bs : Bytes) : Except Fault Head := do
  let size ← littleAt bs 0 4
  let head ← present (part? bs 4 (size - 4))
  if size = shortHead then readShort head
  else if longHeads.contains size then readLong head (bs.drop size)
  else throw .unreadable

def bitDepths : List Nat := [1, 4, 8, 16, 24, 32]

def wideMasks : List (List Nat) :=
  [[0xFF0000, 0xFF00, 0xFF, 0], [0xFF000000, 0xFF0000, 0xFF00, 0], [0xFF000000, 0xFF00, 0xFF, 0],
    [0xFF000000, 0xFF0000, 0xFF00, 0xFF], [0xFF, 0xFF00, 0xFF0000, 0xFF000000],
    [0xFF0000, 0xFF00, 0xFF, 0xFF000000], [0xFF000000, 0xFF00, 0xFF, 0xFF0000], [0, 0, 0, 0]]

def narrowMasks : List (List Nat) := [[0xF800, 0x7E0, 0x1F], [0x7C00, 0x3E0, 0x1F]]

def hasKnownMasks (h : Head) : Bool :=
  match h.bits with
  | 32 => wideMasks.contains h.masks
  | 24 => h.masks.take 3 == [0xFF0000, 0xFF00, 0xFF]
  | 16 => narrowMasks.contains (h.masks.take 3)
  | _ => false

def isReadable (h : Head) : Bool :=
  bitDepths.contains h.bits &&
    (if h.compression = masked then hasKnownMasks h else h.compression < masked) &&
    (8 < h.bits || h.colors ≤ 65536)

/-- Where the pixels begin if the head does not tell: after the palette, which takes three bytes
per color with the oldest head and four with the others. -/
def Head.dataStart (h : Head) : Nat :=
  let colors := if h.colors = 0 then Nat.pow 2 h.bits else h.colors
  let each := if h.headSize = shortHead then 3 else 4
  h.headSize + (if h.bits ≤ 8 then each * colors else 0)

def readHead (bs : Bytes) : Except Fault Head := do
  let h ← anyHead bs
  if isReadable h then return h else throw .unreadable

def readBare (bs : Bytes) : Except Fault Size := do
  let size ← littleAt bs 0 4
  expect (size = shortHead || longHeads.contains size)
  (← readHead bs).size.checked

def fileHead : Nat := 14

def read (bs : Bytes) : Except Fault Picture := do
  expect (begins bs "BM")
  let h ← readHead (bs.drop fileHead)
  return ⟨.bmp, ← h.size.checked, h.density⟩

end DeckPress.Picture.Bitmap
