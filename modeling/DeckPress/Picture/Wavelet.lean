import DeckPress.Picture.Bytes

/-!
# Pictures made of waves

A stream of segments, each with its size, of which the first tells the size of the picture. The
stream may be wrapped into boxes; then a box in the head tells the size.
-/
namespace DeckPress.Picture.Wavelet

/-! ## Streams -/

def checkSegments (bs : Bytes) : Nat → Nat → Except Fault Unit
  | 0, _ => .error .unknown
  | left + 1, place => do
    if bs.length ≤ place then return
    let mark ← byteAt bs (place + 1)
    if mark = 0x90 ∨ mark = 0xD9 then return
    let size ← bigAt bs (place + 2) 2
    if mark = 0x64 then return
    checkSegments bs left (place + 2 + size)

def checkFrom (bs : Bytes) (place : Nat) : Except Fault Unit :=
  checkSegments bs (bs.length + 1) place

def streamMark : Bytes := [0xFF, 0x4F, 0xFF, 0x51]

/-- The size of a stream: where its area ends, less where it begins. -/
def stream (bs : Bytes) : Except Fault Size := do
  let size ← bigAt bs 4 2
  let head := if size < 2 then bs.drop 4 else (bs.drop 4).take size
  let channels ← bigAt head 36 2
  expect (1 ≤ channels && channels ≤ 4)
  if channels = 1 then
    let _ ← byteAt head 38
  checkFrom bs (4 + head.length)
  let width := (← bigAt head 4 4 : Int) - (← bigAt head 12 4)
  let height := (← bigAt head 8 4 : Int) - (← bigAt head 16 4)
  Size.ofInts width height

/-! ## Boxes -/

structure Box where
  kind : Bytes
  start : Nat
  size : Nat

def Box.stop (b : Box) : Nat := b.start + b.size

/-- Bytes within a box that has to hold them; missing ones are another matter. -/
def Box.part (b : Box) (bs : Bytes) (size : Nat) : Except Fault Bytes := do
  expect (size ≤ b.size)
  present (part? bs b.start size)

/-- The box at a place. Its size includes its head, which is longer if the size is. -/
def box (bs : Bytes) (place : Nat) : Except Fault Box := do
  let head ← present (part? bs place 8)
  let size := big (head.take 4)
  let kind := head.drop 4
  if size = 1 then
    let size := big (← present (part? bs (place + 8) 8))
    expect (16 ≤ size)
    return ⟨kind, place + 16, size - 16⟩
  else
    expect (8 ≤ size)
    return ⟨kind, place + 8, size - 8⟩

def boxWithin (bs : Bytes) (place : Nat) : Except Fault Box := do
  expect (place + 8 ≤ bs.length)
  if big ((bs.drop place).take 4) = 1 then expect (place + 16 ≤ bs.length)
  let b ← box bs place
  expect (b.stop ≤ bs.length)
  return b

def headBox (bs : Bytes) : Nat → Nat → Except Fault Box
  | 0, _ => .error .unreadable
  | left + 1, place => do
    let b ← box bs place
    if b.kind == ascii "jp2h" then return b
    if b.kind == ascii "ftyp" then
      let _ ← b.part bs 4
    headBox bs left b.stop

structure Head where
  size : Option Size := none
  channels : Nat := 0
  hasMode : Bool := false
  /-- Grays, which may stand for colors of a palette. -/
  isGray : Bool := false

def Head.describe (h : Head) (data : Bytes) : Except Fault Head := do
  let channels ← bigAt data 8 2
  let depth ← byteAt data 10
  let isKnown := 1 ≤ channels && channels ≤ 4
  return {
    size := some ⟨← bigAt data 4 4, ← bigAt data 0 4⟩
    channels := channels
    hasMode := h.hasMode || isKnown
    isGray :=
      if isKnown then channels = 2 || (channels = 1 && depth % 128 ≤ 8) else h.isGray }

def Head.palette (h : Head) (b : Box) (bs : Bytes) : Except Fault Head := do
  let data ← b.part bs 3
  let count ← bigAt data 0 2
  let each ← byteAt data 2
  let depths := (← b.part bs (3 + each)).drop 3
  if depths.all (· ≤ 8) then
    let _ ← b.part bs (3 + each + count * each)
    return { h with isGray := false }
  else return h

def checkResolution (bs : Bytes) : Nat → Nat → Except Fault Unit
  | 0, _ => .ok ()
  | left + 1, place => do
    if bs.length ≤ place ∧ place ≠ 0 then return
    let b ← boxWithin bs place
    if b.kind == ascii "resc" then
      let _ ← b.part bs 10
    else checkResolution bs left b.stop

def Head.put (h : Head) (b : Box) (bs : Bytes) : Except Fault Head := do
  if b.kind == ascii "ihdr" then h.describe (← b.part bs 11)
  else if b.kind == ascii "colr" && h.channels = 4 then
    let _ ← b.part bs 7
    return h
  else if b.kind == ascii "pclr" && h.isGray then h.palette b bs
  else if b.kind == ascii "res " then
    let data ← b.part bs b.size
    checkResolution data (data.length + 1) 0
    return h
  else return h

def headBoxes (bs : Bytes) : Nat → Nat → Head → Except Fault Head
  | 0, _, h => .ok h
  | left + 1, place, h => do
    if bs.length ≤ place ∧ place ≠ 0 then return h
    let b ← boxWithin bs place
    headBoxes bs left b.stop (← h.put b bs)

def boxesMark : Bytes := [0, 0, 0, 0x0C, 0x6A, 0x50, 0x20, 0x20, 0x0D, 0x0A, 0x87, 0x0A]

/-- The size of a stream in boxes. The stream is looked at if it follows the head. -/
def boxes (bs : Bytes) : Except Fault Size := do
  let b ← headBox bs (bs.length + 1) boxesMark.length
  let data ← b.part bs b.size
  let h ← headBoxes data (data.length + 1) 0 {}
  expect h.hasMode
  let size ← required h.size
  let next := (bs.drop b.stop).take 12
  if next.drop (next.length - 8) = ascii "jp2c" ++ streamMark then
    checkFrom bs (b.stop + 12 + (← bigAt bs (b.stop + 12) 2))
  size.checked

def read (bs : Bytes) : Except Fault Size :=
  if streamMark.isPrefixOf bs then stream bs
  else if boxesMark.isPrefixOf bs then boxes bs
  else .error .unknown

end DeckPress.Picture.Wavelet
