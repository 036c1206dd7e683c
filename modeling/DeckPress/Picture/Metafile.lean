import DeckPress.Picture.Bytes

/-!
# Metafiles

Pictures that are lists of things to draw. The head tells a box: of the older kind in units of
which so many make an inch, of the newer kind in pixels, together with a frame in hundredths of
millimetres.
-/
namespace DeckPress.Picture.Metafile

def headSize : Nat := 44

def olderMark : Bytes := [0xD7, 0xCD, 0xC6, 0x9A, 0, 0]

def newerMark : Bytes := [1, 0, 0, 0]

def drawingMark : Bytes := [1, 0, 9, 0]

def older (bs : Bytes) : Except Fault Picture := do
  let inch ← littleAt bs 14 2
  if inch = 0 then throw (.damaged "Invalid inch")
  let scaled (length : Int) : Int := (length * Density.usual).fdiv inch
  let width := scaled ((← signedLittleAt bs 10 2) - (← signedLittleAt bs 6 2))
  let height := scaled ((← signedLittleAt bs 12 2) - (← signedLittleAt bs 8 2))
  expect (part? bs 22 4 == some drawingMark)
  return ⟨.wmf, ← Size.ofInts width height, .unknown⟩

def perInch (length frame : Int) : Except Fault Float :=
  if frame = 0 then .error .zeroDivision
  else .ok (2540 * Float.ofInt length / Float.ofInt frame)

/-- A density counts only if it is not the same in both directions. -/
def newer (bs : Bytes) : Except Fault Picture := do
  expect (part? bs 40 4 == some (ascii " EMF"))
  let span (start : Nat) : Except Fault Int := do
    return (← signedLittleAt bs (start + 8) 4) - (← signedLittleAt bs start 4)
  let width ← span 8
  let height ← span 12
  let x ← perInch width (← span 24)
  let y ← perInch height (← span 28)
  let density := if x == y then Density.unknown else .ofFloats x y
  return ⟨.wmf, ← Size.ofInts width height, density⟩

def read (bs : Bytes) : Except Fault Picture :=
  if olderMark.isPrefixOf bs then older bs
  else if newerMark.isPrefixOf bs then newer bs
  else .error .unknown

end DeckPress.Picture.Metafile
