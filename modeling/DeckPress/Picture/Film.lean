import DeckPress.Picture.Bytes

/-!
# Films

Animations with a palette. The head is followed by chunks; the first of them is looked through for
the palette, which may not have more than 256 colors. The chunks after it are frames.
-/
namespace DeckPress.Picture.Film

def marks : List Nat := [0xAF11, 0xAF12]

def headSize : Nat := 128

def isZero (bs : Bytes) (start size : Nat) : Bool :=
  part? bs start size == some (List.replicate size 0)

/-- Stretches of colors: how many are left out, and how many follow. -/
def checkPalette (bs : Bytes) : Nat → Nat → Nat → Except Fault Unit
  | 0, _, _ => .ok ()
  | left + 1, place, color => do
    let skipped ← byteAt bs place
    let count ← byteAt bs (place + 1)
    let size := ((bs.drop (place + 2)).take (3 * (if count = 0 then 256 else count))).length
    let color := color + skipped + size / 3
    expect (size % 3 = 0 && (color ≤ 256 || size = 0))
    checkPalette bs left (place + 2 + size) color

def checkParts (bs : Bytes) : Nat → Nat → Except Fault Unit
  | 0, _ => .ok ()
  | left + 1, place => do
    let size ← littleAt bs place 4
    let kind ← littleAt bs (place + 4) 2
    if kind = 4 ∨ kind = 11 then
      checkPalette bs (← littleAt bs (place + 6) 2) (place + 8) 0
    else if size = 0 then return
    else checkParts bs left (place + size)

def read (bs : Bytes) : Except Fault Size := do
  expect (marks.contains (← littleAt bs 4 2) && [0, 3].contains (← littleAt bs 14 2))
  expect (isZero bs 20 2 && isZero bs 42 38 && isZero bs 88 40)
  let kind ← littleAt bs (headSize + 4) 2
  let before ← if kind = 0xF100 then littleAt bs headSize 4 else pure 0
  let start := headSize + before
  if (← littleAt bs (start + 4) 2) = 0xF1FA then
    checkParts bs (← littleAt bs (start + 6) 2) (start + 16)
  expect ((← littleAt bs 6 2) ≠ 0)
  Size.checked ⟨← littleAt bs 8 2, ← littleAt bs 10 2⟩

end DeckPress.Picture.Film
