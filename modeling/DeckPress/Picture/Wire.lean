import DeckPress.Picture.Bytes

/-!
# Pictures of news agencies

Such a picture is sent as fields: a mark, two numbers that name the field, and a size. Some fields
tell what the picture is like.
-/
namespace DeckPress.Picture.Wire

abbrev Name := Nat × Nat

/-- Fields by their names; what a name that came twice stood for is no longer of use. -/
abbrev Fields := List (Name × Option Bytes)

def records : List Nat := [1, 2, 3, 4, 5, 6, 7, 8, 9, 240]

def pictureName : Name := (8, 10)

/-- The size of a field and the bytes that it takes. A large size has a size of its own. -/
def fieldSize (bs : Bytes) : Except Fault (Nat × Nat) := do
  let short ← byteAt bs 3
  if 132 < short then throw .unreadable
  else if short < 128 then return (← bigAt bs 3 2, 5)
  else
    let given := (bs.drop 5).take (short - 128)
    return (big given, 5 + given.length)

def Fields.put (fs : Fields) (name : Name) (data : Bytes) : Fields :=
  if (fs.lookup name).isSome then (name, none) :: fs
  else (name, if data.isEmpty then none else some data) :: fs

/-- Fields up to the picture, or up to five zeros or nothing at all. -/
def fields (left : Nat) (fs : Fields) (bs : Bytes) : Except Fault Fields :=
  match left with
  | 0 => .ok fs
  | left + 1 => do
    if (bs.take 5).all (· == 0) then return fs
    let name := (← byteAt bs 1, ← byteAt bs 2)
    expect ((← byteAt bs 0) = 0x1C && records.contains name.1)
    let (size, start) ← fieldSize bs
    if name = pictureName then return fs
    fields left (fs.put name ((bs.drop start).take size)) (bs.drop (start + size))

def field (fs : Fields) (name : Name) : Except Fault Bytes := do
  required (← required (fs.lookup name))

def number (fs : Fields) (name : Name) : Except Fault Nat := do
  let data ← field fs name
  return big (data.drop (data.length - 4))

def isKnown (layers component : Nat) : Bool :=
  if component = 0 then layers = 1 else layers = 3 || layers = 4

def compressions : List Nat := [1, 5]

def read (bs : Bytes) : Except Fault Size := do
  let fs ← fields (bs.length + 1) [] bs
  let kind ← field fs (3, 60)
  let layers ← byteAt kind 0
  let component ← byteAt kind 1
  if !(layers = 1 && component = 0) && (fs.lookup (3, 65)).isSome then
    let _ ← field fs (3, 65)
  let size : Size := ⟨← number fs (3, 20), ← number fs (3, 30)⟩
  match fs.lookup (3, 120) with
  | none => throw .unreadable
  | some data =>
    let data ← required data
    if !compressions.contains (big (data.drop (data.length - 4))) then throw .unreadable
  expect (isKnown layers component)
  size.checked

end DeckPress.Picture.Wire
