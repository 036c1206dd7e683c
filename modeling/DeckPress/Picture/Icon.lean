import DeckPress.Picture.Bitmap
import DeckPress.Picture.Png

/-!
# Icons

Files that hold one picture in several sizes. A directory tells the sizes and where the pictures
are; the best of them counts. Of an icon the best picture has to be whole, of a cursor only its
head.
-/
namespace DeckPress.Picture.Icon

def entries (count : Nat) (bs : Bytes) : List Bytes :=
  match count with
  | 0 => []
  | count + 1 => bs.take 16 :: entries count (bs.drop 16)

def directoryStart : Nat := 6

def largerCursor (best next : Bytes) : Except Fault Bytes := do
  if best.isEmpty then return next
  if (← byteAt next 0) ≤ (← byteAt best 0) then return best
  if (← byteAt next 1) ≤ (← byteAt best 1) then return best
  return next

/-- A cursor: a bitmap with a mask below it. A bitmap without a place follows the directory. -/
def cursor (bs : Bytes) : Except Fault Size := do
  expect (([0, 0, 2, 0] : Bytes).isPrefixOf bs)
  let count ← littleAt bs 4 2
  let best ← (entries count (bs.drop directoryStart)).foldlM largerCursor []
  let place ← littleAt best 12 4
  let start := if place = 0 then directoryStart + 16 * count else place
  let h ← Bitmap.readHead (bs.drop start)
  Size.checked ⟨h.size.width, h.size.height / 2⟩

structure Entry where
  area : Nat
  bits : Nat
  colors : Nat
  size : Nat
  place : Nat

def Entry.ofBytes (e : Bytes) : Except Fault Entry := do
  let side (n : Nat) : Nat := if n = 0 then 256 else n
  return {
    area := side (← byteAt e 0) * side (← byteAt e 1)
    bits := ← littleAt e 6 2
    colors := ← byteAt e 2
    size := ← littleAt e 8 4
    place := ← littleAt e 12 4 }

/-- The bits of a pixel, which may follow from the number of colors. -/
def Entry.depth (e : Entry) : Nat :=
  if e.bits ≠ 0 then e.bits else if e.colors ≤ 1 then 256 else (e.colors - 1).log2 + 1

/-- The larger of two entries; of two equal ones the one of fewer colors, then the first. -/
def better (a b : Entry) : Entry :=
  if a.area < b.area ∨ (a.area = b.area ∧ b.depth < a.depth) then b else a

def best? : List Entry → Option Entry
  | [] => none
  | e :: es => some (es.foldl better e)

def rowSize (bits width : Nat) : Nat := (width * bits + 31) / 32 * 4

/-- Without compression the rows of a bitmap have to be there; the last one may do without the
bytes that fill it up. -/
def hasRows (h : Bitmap.Head) (size : Size) (pixels : Bytes) : Bool :=
  let needed := (size.height - 1) * rowSize h.bits h.size.width + (size.width * h.bits + 7) / 8
  (h.compression = 1 || h.compression = 2) || needed ≤ pixels.length

def checkOpacities (size : Size) (pixels : Bytes) : Except Fault Unit :=
  if pixels.length / 4 < size.width * size.height then
    .error (.damaged "buffer is not large enough")
  else .ok ()

/-- The mask of any other icon ends it: one bit for each pixel, in rows of whole words. -/
def checkMask (e : Entry) (size : Size) (bs : Bytes) : Except Fault Unit := do
  let row := rowSize 1 size.width
  let place : Int := (e.place : Int) + e.size - row * size.height
  if place < 0 then throw (.damaged ("negative seek value " ++ toString place))
  let needed := (size.height - 1) * row + (size.width + 7) / 8
  if size.height ≠ 0 ∧ ((bs.drop place.toNat).take (row * size.height)).length < needed then
    throw (.damaged "not enough image data")

/-- A bitmap with its mask: its head counts the rows of both. -/
def bitmap (e : Entry) (bs : Bytes) : Except Fault Size := do
  let h ← Bitmap.readHead (bs.drop e.place)
  let _ ← h.size.checked
  let size : Size := ⟨h.size.width, h.size.height / 2⟩
  let pixels := bs.drop (e.place + h.dataStart)
  if e.bits = 32 then checkOpacities size pixels else checkMask e size bs
  if size.height = 0 then throw (.damaged "tile cannot extend outside image")
  if !hasRows h size pixels then throw .unreadable
  return size

def read (bs : Bytes) : Except Fault Size := do
  expect (([0, 0, 1, 0] : Bytes).isPrefixOf bs)
  let count ← littleAt bs 4 2
  let all ← (entries count (bs.drop directoryStart)).mapM Entry.ofBytes
  let e ← required (best? all)
  let picture := bs.drop e.place
  (← if Png.signature.isPrefixOf picture then Png.readWhole picture else bitmap e bs).checked

def setKinds : List (String × Nat) :=
  [("ic10", 1024), ("ic09", 512), ("ic14", 512), ("ic08", 256), ("ic13", 256), ("ic07", 128),
    ("it32", 128), ("t8mk", 128), ("icp6", 64), ("ih32", 48), ("h8mk", 48), ("ic12", 64),
    ("icp5", 32), ("il32", 32), ("l8mk", 32), ("ic11", 32), ("icp4", 16), ("is32", 16),
    ("s8mk", 16)]

def setMarks (left limit place : Nat) (bs : Bytes) : Except Fault (List Bytes) :=
  match left with
  | 0 => .error .unknown
  | left + 1 => do
    if limit ≤ place then return []
    let mark ← part bs place 4
    let size ← bigAt bs (place + 4) 4
    expect (size ≠ 0)
    return mark :: (← setMarks left limit (place + size) bs)

def set (bs : Bytes) : Except Fault Size := do
  expect (begins bs "icns")
  let marks ← setMarks (bs.length + 1) (← bigAt bs 4 4) 8 bs
  let best ← required (setKinds.find? fun (mark, _) => marks.contains (ascii mark))
  return ⟨best.2, best.2⟩

end DeckPress.Picture.Icon
