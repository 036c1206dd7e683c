import DeckPress.Picture.Bytes

/-!
# Pictures with frames

Such a picture describes a screen, and then frames after extensions. The first frame makes the
screen larger if it does not fit.
-/
namespace DeckPress.Picture.Gif

def signatures : List Bytes := [ascii "GIF87a", ascii "GIF89a"]

/-- A block after its size and what follows it; a block of size zero is none, and the last block
may be shorter. -/
def block : Bytes → Option Bytes × Bytes
  | [] => (none, [])
  | n :: bs => if n = 0 then (none, bs) else (some (bs.take n.toNat), bs.drop n.toNat)

def skipBlocks (left : Nat) (bs : Bytes) : Bytes :=
  match left with
  | 0 => bs
  | left + 1 =>
    match block bs with
    | (some (_ :: _), rest) => skipBlocks left rest
    | (_, rest) => rest

def skip (bs : Bytes) : Bytes := skipBlocks bs.length bs

/-- Colors that are a ramp of grays from black on, and that end within one of them. -/
def isCutRamp (n : Nat) : Bytes → Bool
  | [] => false
  | [a] => a.toNat == n
  | [a, b] => a.toNat == n && b == a
  | a :: b :: c :: rest => a.toNat == n && b == a && c == a && isCutRamp (n + 1) rest

def afterPalette (flags : Nat) (bs : Bytes) : Except Fault Bytes :=
  if flags < 128 then .ok bs
  else
    let size := 3 * Nat.pow 2 (flags % 8 + 1)
    if isCutRamp 0 (bs.take size) then .error .unknown else .ok (bs.drop size)

def control (data : Bytes) : Except Fault Unit := do
  let flags ← byteAt data 0
  if flags % 2 = 1 then let _ ← byteAt data 3
  let _ ← littleAt data 1 2

def afterExtension (bs : Bytes) : Except Fault Bytes := do
  let label ← byteAt bs 0
  let (first, rest) := block (bs.drop 1)
  match label, first with
  | 249, some data =>
    control data
    return skip rest
  | 254, some (_ :: _) => return skip rest
  | 254, _ => return rest
  | 255, some data =>
    if (ascii "NETSCAPE2.0").isPrefixOf data then return skip (block rest).2 else return skip rest
  | _, _ => return skip rest

/-- The size of the screen after the first frame, given what follows its mark. -/
def frame (screen : Size) (bs : Bytes) : Except Fault Size := do
  let right := (← littleAt bs 0 2) + (← littleAt bs 4 2)
  let bottom := (← littleAt bs 2 2) + (← littleAt bs 6 2)
  let size : Size := ⟨max right screen.width, max bottom screen.height⟩
  if size ≠ screen then let _ ← size.bounded
  let rest ← afterPalette (← byteAt bs 8) (bs.drop 9)
  let _ ← byteAt rest 0
  return size

def frames (left : Nat) (screen : Size) (bs : Bytes) : Except Fault Size :=
  match left, bs with
  | 0, _ => .error .unknown
  | _, [] => .error .unknown
  | left + 1, b :: bs =>
    if b = 0x3B then .error .unknown
    else if b = 0x2C then frame screen bs
    else if b = 0x21 then do frames left screen (← afterExtension bs)
    else frames left screen bs

def read (bs : Bytes) : Except Fault Picture := do
  if !signatures.any (·.isPrefixOf bs) then throw .unknown
  let width ← littleAt bs 6 2
  let height ← littleAt bs 8 2
  let flags ← byteAt bs 10
  let rest ← afterPalette flags (bs.drop 13)
  let size ← frames rest.length ⟨width, height⟩ rest
  return ⟨.gif, ← size.checked, .unknown⟩

end DeckPress.Picture.Gif
