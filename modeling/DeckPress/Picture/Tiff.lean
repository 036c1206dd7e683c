import DeckPress.Picture.Tags

/-!
# Tagged pictures

Pictures whose head is a directory of tags. The tags tell the size, how pixels are given and where
they are; the kinds of pixels that can be drawn are listed one by one.
-/
namespace DeckPress.Picture.Tiff

/-! ## Numbers of tags -/

def widthTag : Nat := 256

def heightTag : Nat := 257

def bitsTag : Nat := 258

def packingTag : Nat := 259

def meaningTag : Nat := 262

def orderTag : Nat := 266

def stripsTag : Nat := 273

def turnTag : Nat := 274

def countTag : Nat := 277

def planesTag : Nat := 284

def paletteTag : Nat := 320

def tileWidthTag : Nat := 322

def tileHeightTag : Nat := 323

def tilesTag : Nat := 324

def extrasTag : Nat := 338

def kindsTag : Nat := 339

def foreignTag : Nat := 0xBC01

/-! ## Pixels -/

/-- How pixels are given: what their numbers mean, the kinds of numbers, the order of the bits in
a byte, the bits of each number, and what the numbers beyond the color stand for. -/
structure Pixels where
  meaning : Int
  kinds : List Int
  order : Int
  bits : List Int
  extras : List Int
deriving DecidableEq

namespace Pixels

def plain (meaning : Int) (bits extras : List Int) : Pixels := ⟨meaning, [1], 1, bits, extras⟩

def single : List Pixels :=
  [0, 1, 3].flatMap fun meaning =>
    [1, 2].flatMap fun order => [1, 2, 4, 8].map fun bits => ⟨meaning, [1], order, [bits], []⟩

def wide : List Pixels :=
  [plain 1 [16] [], ⟨1, [2], 1, [8], []⟩, ⟨1, [2], 1, [16], []⟩, ⟨1, [2], 1, [32], []⟩,
    ⟨0, [3], 1, [32], []⟩, ⟨1, [3], 1, [32], []⟩]

/-- Light in one number whose last byte is its most significant one. -/
def littleWide : List Pixels :=
  [plain 1 [12] [], plain 0 [16] [], ⟨1, [1], 2, [16], []⟩, plain 1 [32] []]

def double : List Pixels :=
  [1, 3].flatMap fun meaning => [0, 2].map fun extra => plain meaning [8, 8] [extra]

def bytes (n : Nat) : List Int := List.replicate n 8

def words (n : Nat) : List Int := List.replicate n 16

def colored : List Pixels :=
  [plain 2 (bytes 3) [], ⟨2, [1], 2, bytes 3, []⟩, plain 2 (bytes 4) [], plain 2 (words 3) [],
    plain 2 (words 4) [], plain 2 (bytes 4) [999]] ++
  [0, 1, 2].flatMap fun extra =>
    [plain 2 (bytes 4) [extra], plain 2 (bytes 5) [extra, 0], plain 2 (bytes 6) [extra, 0, 0],
      plain 2 (words 4) [extra]]

def printed : List Pixels :=
  [plain 5 (bytes 4) [], plain 5 (bytes 5) [0], plain 5 (bytes 6) [0, 0], plain 5 (words 4) []]

def separated : List Pixels := [plain 6 (bytes 1) [], plain 6 (bytes 3) [], plain 8 (bytes 3) []]

def isKnown (p : Pixels) (isBig : Bool) : Bool :=
  (single ++ wide ++ double ++ colored ++ printed ++ separated).contains p ||
    (!isBig && littleWide.contains p)

def isIndexed (p : Pixels) : Bool := p.meaning = 3

end Pixels

/-! ## The directory -/

structure Directory where
  style : Tags.Style
  entries : Tags.Entries

namespace Directory

def has (d : Directory) (tag : Nat) : Bool := (d.entries.lookup tag).isSome

/-- The whole numbers under a tag; other values fit no picture. -/
def numbers (d : Directory) (tag : Nat) (usual : List Int) : Except Fault (List Int) :=
  match d.entries.lookup tag with
  | none => .ok usual
  | some v => required (v.wholes? d.style)

def number (d : Directory) (tag : Nat) (usual : Int) : Except Fault Int := do
  required (← d.numbers tag [usual]).head?

def first? (d : Directory) (tag : Nat) : Option Int := do
  (← (← d.entries.lookup tag).wholes? d.style).head?

def side (d : Directory) (tag : Nat) (message : String) : Except Fault Int :=
  match d.first? tag with
  | some n => .ok n
  | none => .error (.damaged message)

def unpacked : Int := 1

def packings : List Int :=
  [2, 3, 4, 5, 6, 7, 8, 32771, 32773, 32809, 32946, 34676, 34677, 34925, 50000, 50001]

def oldPhoto : Int := 6

def apart : Int := 2

def sizeMessage : String := "Invalid dimensions"

def tileMessage : String := "Invalid tile dimensions"

/-- Width and height, exchanged if the picture lies on its side. -/
def size (d : Directory) : Except Fault Size := do
  expect (d.has widthTag && d.has heightTag)
  let width ← d.side widthTag sizeMessage
  let height ← d.side heightTag sizeMessage
  let turn := (d.first? turnTag).getD 1
  if 5 ≤ turn ∧ turn ≤ 8 then return ⟨height.toNat, width.toNat⟩
  else return ⟨width.toNat, height.toNat⟩

def merged : List Int → List Int
  | n :: ns => if ns.all (· = n) then [n] else n :: ns
  | [] => []

def sampleLimit : Int := 6

/-- The bits of each of so many numbers: what is too much is dropped, and what is given once holds
for all. -/
def spread (bits : List Int) (count : Int) : Except Fault (List Int) := do
  expect (count ≤ sampleLimit)
  let bits :=
    match bits with
    | [each] => List.replicate count.toNat each
    | bits => bits.take count.toNat
  expect (bits.length = count)
  return bits

/-- How the pixels are given. Numbers of no meaning beyond the color are left out when each kind of
number stands apart. -/
def pixels (d : Directory) (packing : Int) : Except Fault Pixels := do
  let meaning ← if packing = oldPhoto then pure 6 else d.number meaningTag 0
  let order ← d.number orderTag 1
  let kinds ← d.numbers kindsTag [1]
  let bits ← d.numbers bitsTag [1]
  let extras ← d.numbers extrasTag []
  let count ← d.number countTag (if packing = oldPhoto then 3 else 1)
  if d.first? planesTag = some apart ∧ extras ≠ [] ∧ extras.all (· ≤ 0) ∧ extras.any (· = 0) then
    let bits := bits.take (bits.length - extras.length)
    return ⟨meaning, merged kinds, order, ← spread bits (count - extras.length), []⟩
  else return ⟨meaning, merged kinds, order, ← spread bits count, extras⟩

def checkPlaces (d : Directory) : Except Fault Unit := do
  if !d.has stripsTag then
    expect (d.has tilesTag)
    let _ ← d.side tileWidthTag tileMessage
    let _ ← d.side tileHeightTag tileMessage

/-- Pixels per unit, one if they are not told, nothing if they are no number. -/
def resolution? (d : Directory) (tag : Nat) : Option Float :=
  match d.entries.lookup tag with
  | none => some 1
  | some v => v.float? d.style

def isZero (x : Option Float) : Bool := x.any (· == 0)

def ofCentimetre (x : Float) : Option Float :=
  let x := x * 2.54
  if x.isNaN then none else some x

/-- Pixels per inch in both directions, as far as they are told. The unit is an inch unless it is a
centimetre or no unit at all. -/
def perInch (d : Directory) : Except Fault (Option Float × Option Float) := do
  let x := d.resolution? Tags.horizontalTag
  let y := d.resolution? Tags.verticalTag
  if isZero x || isZero y then return (none, none)
  else
    match if d.has Tags.unitTag then d.first? Tags.unitTag else some Tags.inch with
    | none => return (none, none)
    | some unit =>
      if unit = Tags.inch then return (x, y)
      else if unit = Tags.centimetre then
        return (ofCentimetre (← required x), ofCentimetre (← required y))
      else return (none, none)

end Directory

/-- The density in one direction. A quotient by zero is an error. -/
def density : Option Float → Except Fault Nat
  | none => .ok Density.usual
  | some x => if x.isNaN then .error .zeroDivision else .ok (Density.rounded x)

def read (bs : Bytes) : Except Fault Picture := do
  let (style, place) ← Tags.start bs
  expect (place ≠ 0)
  if Tags.placeLimit < place then throw (.damaged "Unable to seek to frame")
  let d : Directory := ⟨style, ← Tags.directory style bs place⟩
  if d.has foreignTag then throw .unreadable
  let packing ← d.number packingTag Directory.unpacked
  expect (packing = Directory.unpacked || Directory.packings.contains packing)
  let size ← d.size
  let pixels ← d.pixels packing
  expect (pixels.isKnown style.isBig)
  let (x, y) ← d.perInch
  if packing = Directory.unpacked then d.checkPlaces
  if pixels.isIndexed then expect (d.has paletteTag)
  return ⟨.tiff, ← size.checked, ⟨← density x, ← density y⟩⟩

end DeckPress.Picture.Tiff
