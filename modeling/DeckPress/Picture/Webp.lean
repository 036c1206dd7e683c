import DeckPress.Picture.Bytes

/-!
# Pictures in a resource file

The file consists of chunks: a mark, a size and data, which are filled up to an even size. A simple
file holds the image at once; an extended one tells the size of a canvas and then has the image, or
frames of an animation, among other chunks. The file has to be whole.
-/
namespace DeckPress.Picture.Webp

def imageMarks : List Bytes := [ascii "VP8 ", ascii "VP8L"]

structure Chunk where
  mark : Bytes
  start : Nat
  size : Nat

def headSize : Nat := 8

def Chunk.stop (c : Chunk) : Nat := c.start + c.size + c.size % 2

def Chunk.place (c : Chunk) : Nat := c.start - headSize

def sizeLimit : Nat := 0xFFFFFFF6

/-- The chunk at a place, which ends with the bytes at last. -/
def chunk? (bs : Bytes) (place : Nat) : Option Chunk := do
  let head ← part? bs place headSize
  let c : Chunk := ⟨head.take 4, place + headSize, little (head.drop 4)⟩
  if c.size ≤ sizeLimit && c.stop ≤ bs.length then some c else none

/-- An image without loss: fourteen bits for each side less one, a bit for opacity, and three bits
that are zero. -/
def losslessSize? (data : Bytes) : Option Size := do
  let head ← part? data 0 5
  let n := little (head.drop 1)
  if head.head? == some 0x2F && n / 0x20000000 = 0 then
    some ⟨n % 0x4000 + 1, n / 0x4000 % 0x4000 + 1⟩
  else none

/-- An image with loss: the first frame is whole, of a known profile, and visible; its first part
is not larger than the chunk. -/
def lossySize? (size : Nat) (data : Bytes) : Option Size := do
  let head ← part? data 0 10
  let flags := little (head.take 3)
  let width := little ((head.drop 6).take 2) % 0x4000
  let height := little ((head.drop 8).take 2) % 0x4000
  let isKey := flags % 2 = 0 && flags / 2 % 8 ≤ 3 && flags / 16 % 2 = 1
  if (head.drop 3).take 3 == [0x9D, 0x01, 0x2A] && isKey && flags / 32 < size &&
      width ≠ 0 && height ≠ 0 then
    some ⟨width, height⟩
  else none

def imageSize? (bs : Bytes) (c : Chunk) : Option Size :=
  let data := (bs.drop c.start).take (c.stop - c.start)
  if c.mark == ascii "VP8L" then losslessSize? data else lossySize? c.size data

structure Image where
  opacity : Option Nat := none
  image : Option Nat := none
  size : Size := ⟨0, 0⟩

/-- One image and one opacity at most from a place on, and the place after them. -/
def images (bs : Bytes) : Nat → Nat → Image → Option (Image × Nat)
  | 0, _, _ => none
  | left + 1, place, i => do
    if place = bs.length then return (i, place)
    let c ← chunk? bs place
    if c.mark == ascii "ALPH" && i.opacity.isNone then
      images bs left c.stop { i with opacity := some place }
    else if c.mark == ascii "VP8L" && i.opacity.isSome then none
    else if imageMarks.contains c.mark && i.image.isNone then
      let size ← imageSize? bs c
      images bs left c.stop { i with image := some place, size := size }
    else return (i, place)

def Image.isValid (i : Image) : Bool :=
  match i.opacity, i.image with
  | _, none => false
  | none, some _ => true
  | some a, some b => a < b

structure Canvas where
  size : Size
  flags : Nat

def Canvas.isAnimated (c : Canvas) : Bool := c.flags / 2 % 2 = 1

def Canvas.hasOpacity (c : Canvas) : Bool := c.flags / 16 % 2 = 1

def unusedFlags : Nat := 0xC1

def areaLimit : Nat := 0xFFFFFFFF

structure Contents where
  hasAnimation : Bool := false
  image : Option Image := none
  frames : Nat := 0

def frameHead : Nat := 16

/-- A frame of an animation: its place and its size in a head, then an image that lies on the
canvas. A frame without an image is none. -/
def Contents.frame (s : Contents) (bs : Bytes) (canvas : Canvas) (c : Chunk) :
    Option (Contents × Nat) := do
  let head ← part? bs c.start frameHead
  let triple (start : Nat) : Nat := little ((head.drop start).take 3)
  let start := c.start + frameHead
  if areaLimit < (triple 6 + 1) * (triple 9 + 1) || bs.length < start + headSize then none
  let (i, next) ← images bs (bs.length + 1) start {}
  if c.stop < next then none
  if i.opacity.isNone && i.image.isNone || !canvas.isAnimated then return (s, next)
  let fits := 2 * triple 0 + i.size.width ≤ canvas.size.width &&
    2 * triple 3 + i.size.height ≤ canvas.size.height
  if i.isValid && fits then some ({ s with frames := s.frames + 1 }, next) else none

def Contents.put (s : Contents) (bs : Bytes) (canvas : Canvas) (place : Nat) :
    Option (Contents × Nat) := do
  let c ← chunk? bs place
  if c.mark == ascii "VP8X" then none
  else if c.mark == ascii "ALPH" || imageMarks.contains c.mark then
    if s.hasAnimation || canvas.isAnimated || s.image.isSome then none
    let (i, next) ← images bs (bs.length + 1) place {}
    return ({ s with image := some i }, next)
  else if c.mark == ascii "ANIM" then
    if c.stop - c.start < 6 then none
    return ({ s with hasAnimation := true }, c.stop)
  else if c.mark == ascii "ANMF" then
    if s.hasAnimation then s.frame bs canvas c else none
  else return (s, c.stop)

def contents? (bs : Bytes) (canvas : Canvas) : Nat → Nat → Contents → Option Contents
  | 0, _, _ => none
  | left + 1, place, s => do
    if place = bs.length then return s
    let (s, next) ← s.put bs canvas place
    contents? bs canvas left next s

/-- An image that is not animated covers the canvas. -/
def Contents.isValid (s : Contents) (canvas : Canvas) : Bool :=
  match s.image with
  | some i =>
    let i := if canvas.hasOpacity then i else { i with opacity := none }
    i.isValid && i.size == canvas.size
  | none => 0 < s.frames

def extended? (bs : Bytes) (c : Chunk) : Option Size := do
  let data ← part? bs c.start 10
  let canvas : Canvas :=
    ⟨⟨little ((data.drop 4).take 3) + 1, little ((data.drop 7).take 3) + 1⟩, little (data.take 1)⟩
  if c.size < 10 || areaLimit < canvas.size.width * canvas.size.height then none
  let s ← contents? bs canvas (bs.length + 1) c.stop {}
  if canvas.flags &&& unusedFlags = 0 && s.isValid canvas then some canvas.size else none

def size? (bs : Bytes) : Option Size := do
  let size := little ((bs.drop 4).take 4)
  if size < 12 || sizeLimit < size then none
  let file ← part? bs 0 (size + headSize)
  let c ← chunk? file 12
  if c.mark == ascii "VP8X" then extended? file c
  else
    let (i, _) ← images file (file.length + 1) 12 {}
    i.image.map fun _ => i.size

def read (bs : Bytes) : Except Fault Size := do
  expect (begins bs "RIFF" && begins (bs.drop 8) "WEBP")
  expect ((imageMarks ++ [ascii "VP8X"]).contains ((bs.drop 12).take 4))
  (← present (size? bs)).checked

end DeckPress.Picture.Webp
