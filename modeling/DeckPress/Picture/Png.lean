import DeckPress.Picture.Inflate

/-!
# Chunked pictures

After its signature such a picture consists of chunks: a size, a kind, data and a check. The
chunks before the image data tell the size and the density of the picture. All of them have to be
whole and right, and what is too short for its kind is reported in words.
-/
namespace DeckPress.Picture.Png

def signature : Bytes := [0x89, 0x50, 0x4E, 0x47, 0x0D, 0x0A, 0x1A, 0x0A]

inductive Color
  | gray
  | rgb
  | indexed
  | grayAlpha
  | rgbAlpha
deriving Repr, DecidableEq

def colors : List (Nat × Color × List Nat) :=
  [(0, .gray, [1, 2, 4, 8, 16]), (2, .rgb, [8, 16]), (3, .indexed, [1, 2, 4, 8]),
    (4, .grayAlpha, [8, 16]), (6, .rgbAlpha, [8, 16])]

def color? (depth kind : Nat) : Option Color :=
  match colors.lookup kind with
  | some (c, depths) => if depths.contains depth then some c else none
  | none => none

def Color.channels : Color → Nat
  | gray => 1
  | rgb => 3
  | indexed => 1
  | grayAlpha => 2
  | rgbAlpha => 4

def Color.transparentSize : Color → Nat
  | gray => 2
  | rgb => 6
  | _ => 0

structure Head where
  size : Size := ⟨0, 0⟩
  color : Option Color := none
  bits : Nat := 0
  isInterlaced : Bool := false
  density : Density := .unknown
  /-- The number of the last chunk about a frame. -/
  sequence : Option Nat := none
deriving Repr, DecidableEq

def textLimit : Nat := 1048576

def inflate (bs : Bytes) : Except Fault (Option Bytes) :=
  match Inflate.read textLimit bs with
  | .ok text => .ok (some text)
  | .error .full =>
    .error (.damaged "Decompressed data too large for PngImagePlugin.MAX_TEXT_CHUNK")
  | .error _ => .ok none

def truncated (name : String) : Except Fault Head :=
  .error (.damaged ("Truncated " ++ name ++ " chunk"))

def truncatedFrame (name : String) : Except Fault Head :=
  .error (.damaged ("APNG contains truncated " ++ name ++ " chunk"))

/-- Size and colors. Depths that do not go with the kind of colors leave the colors as they were. -/
def header (data : Bytes) (h : Head) : Except Fault Head := do
  if data.length < 13 then truncated "IHDR"
  else
    let width ← bigAt data 0 4
    let height ← bigAt data 4 4
    let depth ← byteAt data 8
    if (← byteAt data 11) ≠ 0 then throw .unknown
    let h := { h with
      size := ⟨width, height⟩
      isInterlaced := h.isInterlaced || (← byteAt data 12) ≠ 0 }
    match color? depth (← byteAt data 9) with
    | some c => return { h with color := some c, bits := depth * c.channels }
    | none => return h

def physical (data : Bytes) (h : Head) : Except Fault Head := do
  if data.length < 9 then truncated "pHYs"
  else
    let x ← bigAt data 0 4
    let y ← bigAt data 4 4
    let perInch (n : Nat) : Float := Float.ofNat n * 0.0254
    if (← byteAt data 8) = 1 then return { h with density := .ofFloats (perInch x) (perInch y) }
    else return h

def transparency (data : Bytes) (h : Head) : Except Fault Head :=
  match h.color with
  | some c => if data.length < c.transparentSize then truncated "tRNS" else .ok h
  | none => .ok h

/-- A text under the name of the density takes its place, and no text is a density. -/
def named (key : Bytes) (h : Head) : Head :=
  if key == ascii "dpi" then { h with density := .unknown } else h

def keyed (data : Bytes) : Bytes × Bytes := (splitZero? data).getD (data, [])

def plainText (data : Bytes) (h : Head) : Head := named (keyed data).1 h

def compressedText (data : Bytes) (h : Head) : Except Fault Head := do
  let (key, value) := keyed data
  if value.headD 0 ≠ 0 then throw .unknown
  let _ ← inflate (value.drop 1)
  return named key h

def isUtf8 (bs : Bytes) : Bool := (String.fromUTF8? ⟨bs.toArray⟩).isSome

/-- The parts of a text with its language: its name, the language, the name in the language, and
the text. Nothing if the parts are not there or cannot be read. -/
def languageParts (data : Bytes) : Except Fault (Option (List Bytes)) := do
  match splitZero? data with
  | some (key, compressed :: method :: rest) =>
    match splitZero? rest with
    | some (language, rest) =>
      match splitZero? rest with
      | some (name, value) =>
        if compressed = 0 then return some [key, language, name, value]
        else if method ≠ 0 then return none
        else return (← inflate value).map fun text => [key, language, name, text]
      | none => return none
    | none => return none
  | _ => return none

def languageText (data : Bytes) (h : Head) : Except Fault Head := do
  match ← languageParts data with
  | some (key :: texts) => return if texts.all isUtf8 then named key h else h
  | _ => return h

/-- A profile: its name, the method of compression, and the compressed data. Without the end of
the name the method comes first. -/
def profile (data : Bytes) (h : Head) : Except Fault Head := do
  let rest :=
    match splitZero? data with
    | some (_, rest) => rest
    | none => data
  if (← byteAt rest 0) ≠ 0 then throw .unknown
  let _ ← inflate (rest.drop 1)
  return h

/-- Frames are numbered without a gap, together with their data. -/
def follows (h : Head) (n : Nat) : Bool := n == ((h.sequence.map (· + 1)).getD 0)

def frame (data : Bytes) (h : Head) : Except Fault Head := do
  if data.length < 26 then truncatedFrame "fcTL"
  else
    let n ← bigAt data 0 4
    if !follows h n then throw .unknown
    let right := (← bigAt data 4 4) + (← bigAt data 12 4)
    let bottom := (← bigAt data 8 4) + (← bigAt data 16 4)
    if h.size.width < right ∨ h.size.height < bottom then throw .unknown
    return { h with sequence := some n }

def take (kind : String) (data : Bytes) (h : Head) : Except Fault Head :=
  match kind with
  | "IHDR" => header data h
  | "pHYs" => physical data h
  | "gAMA" => if data.length < 4 then truncated "gAMA" else .ok h
  | "sRGB" => if data.isEmpty then truncated "sRGB" else .ok h
  | "cHRM" => if data.length < 32 then truncated "cHRM" else .ok h
  | "tRNS" => transparency data h
  | "tEXt" => .ok (plainText data h)
  | "zTXt" => compressedText data h
  | "iTXt" => languageText data h
  | "iCCP" => profile data h
  | "acTL" => if data.length < 8 then truncatedFrame "acTL" else .ok h
  | "fcTL" => frame data h
  | _ => .ok h

/-- The data of a frame begin with the next number and stand for the image data. Without colors
they cannot. -/
def frameData (size : Nat) (data : Bytes) (h : Head) : Except Fault Head := do
  if size < 4 then truncatedFrame "fDAT"
  else
    let n ← bigAt data 0 4
    if h.sequence.isNone || !follows h n || h.color.isNone then throw .unknown
    return h

def isKindByte (b : UInt8) : Bool :=
  let c := Char.ofNat b.toNat
  c.isAlphanum || c == '_'

/-- Reads chunks up to the image data; what follows begins with them. -/
def chunks (left : Nat) (h : Head) (bs : Bytes) : Except Fault (Head × Bytes) :=
  match left with
  | 0 => .error .unknown
  | left + 1 => do
    let size ← bigAt bs 0 4
    let name ← part bs 4 4
    if !name.all isKindByte then throw .unknown
    let kind := String.ofList (name.map fun b => Char.ofNat b.toNat)
    if kind == "IEND" || (kind == "IDAT" && h.color.isSome) then return (h, bs)
    if kind == "fdAT" then return (← frameData size (bs.drop 8) h, bs)
    else
      let data ← part bs 8 size
      let h ← take kind data h
      if Checksum.crc (name ++ data) ≠ (← bigAt bs (8 + size) 4) then throw .unknown
      chunks left h (bs.drop (12 + size))

def readHead (bs : Bytes) : Except Fault (Head × Bytes) := do
  expect (signature.isPrefixOf bs)
  let (h, rest) ← chunks bs.length {} (bs.drop signature.length)
  expect h.color.isSome
  let _ ← h.size.checked
  return (h, rest)

def read (bs : Bytes) : Except Fault Picture := do
  let (h, _) ← readHead bs
  return ⟨.png, h.size, h.density⟩

def imageData (left : Nat) (bs : Bytes) : Bytes :=
  match left with
  | 0 => []
  | left + 1 =>
    if part? bs 4 4 == some (ascii "IDAT") then
      let size := big (bs.take 4)
      (bs.drop 8).take size ++ imageData left (bs.drop (12 + size))
    else []

/-- The first row and column of each pass through an interlaced picture, and the steps to the
next ones. -/
def passes : List (Nat × Nat × Nat × Nat) :=
  [(0, 0, 8, 8), (0, 4, 8, 8), (4, 0, 8, 4), (0, 2, 4, 4), (2, 0, 4, 2), (0, 1, 2, 2),
    (1, 0, 2, 1)]

def rowsSize (bits width height : Nat) : Nat :=
  if width = 0 then 0 else height * (1 + (width * bits + 7) / 8)

def Head.pixelsSize (h : Head) : Nat :=
  if h.isInterlaced then
    (passes.map fun (row, column, rows, columns) =>
      rowsSize h.bits ((h.size.width + columns - 1 - column) / columns)
        ((h.size.height + rows - 1 - row) / rows)).foldl (· + ·) 0
  else rowsSize h.bits h.size.width h.size.height

def readWhole (bs : Bytes) : Except Fault Size := do
  let (h, rest) ← readHead bs
  if Inflate.holds h.pixelsSize (imageData rest.length rest) then return h.size
  else throw .unreadable

end DeckPress.Picture.Png
