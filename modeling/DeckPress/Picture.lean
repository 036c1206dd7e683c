import DeckPress.Number.Binary

/-!
# Pictures

What a slide has to know of a picture: its kind, its size in pixels, and the pixels per inch. All
of it stands in the first bytes of a file; the image data are never looked at.
-/
namespace DeckPress

namespace Picture

inductive Format
  | png
  | gif
  | bmp
  | jpeg
  | tiff
  | wmf
deriving Repr, DecidableEq

def Format.word : Format → String
  | png => "png"
  | gif => "gif"
  | bmp => "bmp"
  | jpeg => "jpg"
  | tiff => "tiff"
  | wmf => "wmf"

inductive Fault
  /-- They are no picture of the kind at hand; they may be one of another kind. -/
  | unknown
  /-- They are a picture of the kind at hand, but one that is broken. -/
  | unreadable
  | tooLarge (pixels : Nat)
  | damaged (message : String)
  | unsupported (kind : String)
  | foreignPixels
  /-- The pixels are given in several ways at once, or in none. -/
  | manyPixels
  | zeroDivision
  | endless
  /-- One picture of a stack that is not there. -/
  | partOfStack
deriving Repr, DecidableEq

def pixelLimit : Nat := 178956970

def Fault.message : Fault → String
  | unknown => "cannot identify image file"
  | unreadable => "broken image file"
  | tooLarge pixels =>
    "Image size (" ++ toString pixels ++ " pixels) exceeds limit of " ++
      toString pixelLimit ++ " pixels, could be decompression bomb DOS attack."
  | damaged message => message
  | unsupported kind =>
    "unsupported image format, expected one of: dict_keys(['BMP', 'GIF', 'JPEG', 'PNG', " ++
      "'TIFF', 'WMF']), got '" ++ kind ++ "'"
  | foreignPixels => "Unimplemented pixel format"
  | manyPixels => ""
  | zeroDivision => "division by zero"
  | endless => "cannot convert float infinity to integer"
  | partOfStack => "one picture of a stack"

/-- Bytes that are no picture, or a broken one, are left without a word. -/
def Fault.isSilent : Fault → Bool
  | unknown => true
  | unreadable => true
  | _ => false

structure Size where
  width : Nat
  height : Nat
deriving Repr, DecidableEq

namespace Size

/-- A side of no length counts as one of length one. -/
def pixels (s : Size) : Nat := max 1 s.width * max 1 s.height

def bounded (s : Size) : Except Fault Size :=
  if pixelLimit < s.pixels then .error (.tooLarge s.pixels) else .ok s

def checked (s : Size) : Except Fault Size :=
  if s.width = 0 ∨ s.height = 0 then .error .unknown else s.bounded

def ofInts (width height : Int) : Except Fault Size := checked ⟨width.toNat, height.toNat⟩

end Size

structure Density where
  horizontal : Nat
  vertical : Nat
deriving Repr, DecidableEq

namespace Density

/-- Pixels per inch of a picture that does not tell them. -/
def usual : Nat := 72

def unknown : Density := ⟨usual, usual⟩

def rounded (x : Float) : Nat :=
  let n := if x.isFinite then Number.nearest x else 0
  if 1 ≤ n ∧ n ≤ 2048 then n.toNat else usual

def ofFloats (x y : Float) : Density := ⟨rounded x, rounded y⟩

end Density

end Picture

structure Picture where
  format : Picture.Format
  size : Picture.Size
  density : Picture.Density
deriving Repr, DecidableEq

end DeckPress
