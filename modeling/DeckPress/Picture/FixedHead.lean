import DeckPress.Picture.Bytes

/-!
# Heads with fixed places

Pictures whose head has every number at a place of its own. They are known, but no slide can hold
them, so nothing but their size is read and whatever would make the head a wrong one.
-/
namespace DeckPress.Picture.FixedHead

def qoi (bs : Bytes) : Except Fault Size := do
  expect (begins bs "qoif")
  let _ ← byteAt bs 12
  Size.checked ⟨← bigAt bs 4 4, ← bigAt bs 8 4⟩

def tga (bs : Bytes) : Except Fault Size := do
  let _ ← part bs 0 18
  let palette ← byteAt bs 1
  let kind ← byteAt bs 2
  let depth ← byteAt bs 16
  expect (palette ≤ 1 && [1, 2, 3, 9, 10, 11].contains kind && [1, 8, 16, 24, 32].contains depth)
  if palette = 1 then expect ([16, 24, 32].contains (← byteAt bs 7))
  Size.checked ⟨← littleAt bs 12 2, ← littleAt bs 14 2⟩

/-- A head whose words have no bit left when they are added without carry. -/
def msp (bs : Bytes) : Except Fault Size := do
  expect (begins bs "DanM" || begins bs "LinS")
  let words ← (List.range 16).mapM fun k => littleAt bs (2 * k) 2
  expect (words.foldl (fun a b => a ^^^ b) 0 = 0)
  Size.checked ⟨← littleAt bs 4 2, ← littleAt bs 6 2⟩

def pixar (bs : Bytes) : Except Fault Size := do
  expect (([0x80, 0xE8, 0, 0] : Bytes).isPrefixOf bs)
  let channels ← littleAt bs 424 2
  let depth ← littleAt bs 426 2
  expect (channels = 14 && depth = 2)
  Size.checked ⟨← littleAt bs 418 2, ← littleAt bs 416 2⟩

/-- A raster of one of six kinds; a palette holds up to 1024 bytes. -/
def sun (bs : Bytes) : Except Fault Size := do
  expect (([0x59, 0xA6, 0x6A, 0x95] : Bytes).isPrefixOf bs)
  let depth ← bigAt bs 12 4
  let kind ← bigAt bs 20 4
  let paletteKind ← bigAt bs 24 4
  let paletteSize ← bigAt bs 28 4
  expect ([1, 4, 8, 24, 32].contains depth && kind ≤ 5)
  expect (paletteSize = 0 || (paletteSize ≤ 1024 && paletteKind = 1))
  Size.checked ⟨← bigAt bs 4 4, ← bigAt bs 8 4⟩

def sgiLayouts : List (List Nat) :=
  [[1, 1, 1], [1, 2, 1], [2, 1, 1], [2, 2, 1], [1, 3, 3], [2, 3, 3], [1, 3, 4], [2, 3, 4]]

def sgi (bs : Bytes) : Except Fault Size := do
  expect (([0x01, 0xDA] : Bytes).isPrefixOf bs)
  let _ ← part bs 0 12
  let layout := [← byteAt bs 3, ← bigAt bs 4 2, ← bigAt bs 10 2]
  if !sgiLayouts.contains layout then throw (.damaged "Unsupported SGI image mode")
  Size.checked ⟨← bigAt bs 6 2, ← bigAt bs 8 2⟩

/-- A directory of sixty-four words: the ninth and the tenth are height and width, the eleventh
the bytes per pixel. -/
def mcidas (bs : Bytes) : Except Fault Size := do
  expect (([0, 0, 0, 0, 0, 0, 0, 4] : Bytes).isPrefixOf bs)
  let _ ← part bs 0 256
  expect ([1, 2, 4].contains (← bigAt bs 40 4))
  Size.ofInts (← signedBigAt bs 36 4) (← signedBigAt bs 32 4)

def mpeg (bs : Bytes) : Except Fault Size := do
  expect (([0, 0, 1, 0xB3] : Bytes).isPrefixOf bs)
  let n ← bigAt bs 4 3
  Size.checked ⟨n / 4096, n % 4096⟩

/-- A brush, with or without colors; the second version of the head is marked once more. -/
def gbr (bs : Bytes) : Except Fault Size := do
  let headSize ← bigAt bs 0 4
  let version ← bigAt bs 4 4
  expect (20 ≤ headSize && (version = 1 || version = 2))
  let depth ← bigAt bs 16 4
  expect (depth = 1 || depth = 4)
  if version = 2 then
    expect (begins (bs.drop 20) "GIMP")
    let _ ← part bs 24 4
  Size.checked ⟨← bigAt bs 8 4, ← bigAt bs 12 4⟩

def pcx (bs : Bytes) : Except Fault Size := do
  let version ← byteAt bs 1
  expect ((← byteAt bs 0) = 10 && [0, 2, 3, 5].contains version)
  let _ ← part bs 0 68
  let width := (← littleAt bs 8 2) + 1 - (← littleAt bs 4 2)
  let height := (← littleAt bs 10 2) + 1 - (← littleAt bs 6 2)
  expect (width ≠ 0 && height ≠ 0)
  let planes ← byteAt bs 65
  let isReadable :=
    match ← byteAt bs 3 with
    | 1 => [1, 2, 4].contains planes
    | 8 => version = 5 && [1, 3].contains planes
    | _ => false
  if !isReadable then throw .unreadable
  Size.checked ⟨width, height⟩

def pages (left : Nat) (bs : Bytes) : Except Fault (List Nat) :=
  match left with
  | 0 => .ok []
  | left + 1 => do
    let place ← littleAt bs 0 4
    if place = 0 then return [] else return place :: (← pages left (bs.drop 4))

def dcx (bs : Bytes) : Except Fault Size := do
  expect (([0xB1, 0x68, 0xDE, 0x3A] : Bytes).isPrefixOf bs)
  pcx (bs.drop (← required (← pages 1024 (bs.drop 4)).head?))

def pcd (bs : Bytes) : Except Fault Size := do
  let head ← part bs 2048 1539
  expect (begins head "PCD_")
  if (← byteAt head 1538) % 2 = 1 then return ⟨512, 768⟩ else return ⟨768, 512⟩

/-- Data of which only the mark is known count as one pixel. -/
def stub (isMarked : Bytes → Bool) (bs : Bytes) : Except Fault Size := do
  expect (isMarked bs)
  return ⟨1, 1⟩

def bufr : Bytes → Except Fault Size := stub fun bs => begins bs "BUFR" || begins bs "ZCZC"

def grib : Bytes → Except Fault Size := stub fun bs => begins bs "GRIB" && bs[7]? == some 1

def hdf5 : Bytes → Except Fault Size :=
  stub fun bs => ([0x89, 0x48, 0x44, 0x46, 0x0D, 0x0A, 0x1A, 0x0A] : Bytes).isPrefixOf bs

end DeckPress.Picture.FixedHead
