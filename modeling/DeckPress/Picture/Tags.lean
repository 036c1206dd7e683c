import DeckPress.Picture.Bytes

/-!
# Tags

A directory of values under numbers, as it stands in a picture or beside one. The first two bytes
tell whether numbers have their first or their last byte most significant; in a long directory
sizes and places take eight bytes. A directory that ends too early tells what came before.
-/
namespace DeckPress.Picture.Tags

structure Style where
  isBig : Bool
  isLong : Bool

def Style.number (s : Style) (bs : Bytes) : Nat := if s.isBig then big bs else little bs

def Style.placeSize (s : Style) : Nat := if s.isLong then 8 else 4

def Style.countSize (s : Style) : Nat := if s.isLong then 8 else 2

def Style.entrySize (s : Style) : Nat := 4 + 2 * s.placeSize

/-! ## Numbers of tags that photographs and pictures share -/

def horizontalTag : Nat := 282

def verticalTag : Nat := 283

def unitTag : Nat := 296

def inch : Int := 2

def centimetre : Int := 3

/-! ## Directories -/

def marks : List Bytes :=
  [[0x4D, 0x4D, 0, 0x2A], [0x49, 0x49, 0x2A, 0], [0x4D, 0x4D, 0x2A, 0], [0x49, 0x49, 0, 0x2A],
    [0x4D, 0x4D, 0, 0x2B], [0x49, 0x49, 0x2B, 0]]

structure Value where
  kind : Nat
  data : Bytes

def Value.isBytes (v : Value) : Bool := v.kind = 1 || v.kind = 7

/-- Values by their numbers, the last one first. -/
abbrev Entries := List (Nat × Value)

def kindSizes : List (Nat × Nat) :=
  [(1, 1), (2, 1), (3, 2), (4, 4), (5, 8), (6, 1), (7, 1), (8, 2), (9, 4), (10, 8), (11, 4),
    (12, 8), (13, 4), (16, 8)]

/-- Places and sizes beyond this one are errors and not only too large for the file. -/
def placeLimit : Nat := 0x7FFFFFFFFFFFFFFF

/-- The bytes of an entry, which stand in it or at a place that it tells; not all of them may be
there. -/
def valueBytes? (s : Style) (bs entry : Bytes) (size : Nat) : Except Fault (Option Bytes) :=
  let given := entry.drop (4 + s.placeSize)
  if size ≤ s.placeSize then .ok (some (given.take size))
  else if placeLimit < s.number given ∨ placeLimit < size then .error .endless
  else .ok (part? bs (s.number given) size)

/-- So many entries; entries of unknown kinds and empty ones are left out. -/
def entries (s : Style) (bs : Bytes) : Nat → Nat → Entries → Except Fault Entries
  | 0, _, found => .ok found
  | left + 1, place, found => do
    match part? bs place s.entrySize with
    | none => return found
    | some entry =>
      let next := place + s.entrySize
      let kind := s.number ((entry.drop 2).take 2)
      match kindSizes.lookup kind with
      | none => entries s bs left next found
      | some each =>
        match ← valueBytes? s bs entry (s.number ((entry.drop 4).take s.placeSize) * each) with
        | none => return found
        | some [] => entries s bs left next found
        | some data => entries s bs left next ((s.number (entry.take 2), ⟨kind, data⟩) :: found)

def directory (s : Style) (bs : Bytes) (place : Nat) : Except Fault Entries :=
  if placeLimit < place then .error .endless
  else
    match part? bs place s.countSize with
    | some count => entries s bs (s.number count) (place + s.countSize) []
    | none => .ok []

def start (bs : Bytes) : Except Fault (Style × Nat) := do
  let mark ← part bs 0 4
  expect (marks.contains mark)
  let s : Style := ⟨mark.head? == some 0x4D, mark[2]? == some 0x2B⟩
  return (s, s.number (← part bs s.placeSize s.placeSize))

def first (bs : Bytes) : Except Fault (Style × Entries) := do
  let (s, place) ← start bs
  return (s, ← directory s bs place)

def pieces (size : Nat) : Nat → Bytes → List Bytes
  | 0, _ => []
  | left + 1, bs => if bs.length < size then [] else bs.take size :: pieces size left (bs.drop size)

def wholeKinds : List (Nat × Nat) := [(3, 2), (4, 4), (6, 1), (8, 2), (9, 4), (13, 4), (16, 8)]

def signedKinds : List Nat := [6, 8, 9, 10]

def Value.wholes? (s : Style) (v : Value) : Option (List Int) :=
  (wholeKinds.lookup v.kind).map fun size =>
    (pieces size v.data.length v.data).map fun p =>
      if signedKinds.contains v.kind then signed size (s.number p) else s.number p

def Value.ratios? (s : Style) (v : Value) : Option (List (Int × Int)) :=
  if v.kind ≠ 5 ∧ v.kind ≠ 10 then none
  else
    let number (p : Bytes) : Int := if v.kind = 10 then signed 4 (s.number p) else s.number p
    some ((pieces 8 v.data.length v.data).map fun p => (number (p.take 4), number (p.drop 4)))

def singleKind : Nat := 11

def doubleKind : Nat := 12

/-- The first number of a value as a double; no number is the quotient by zero. -/
def Value.float? (s : Style) (v : Value) : Option Float :=
  match v.wholes? s, v.ratios? s with
  | some (n :: _), _ => some (Float.ofInt n)
  | _, some ((n, d) :: _) => some (if d = 0 then 0 / 0 else Float.ofInt n / Float.ofInt d)
  | _, _ =>
    if v.kind = singleKind then
      some (Float32.ofBits (s.number (v.data.take 4)).toUInt32).toFloat
    else if v.kind = doubleKind then some (Float.ofBits (s.number (v.data.take 8)).toUInt64)
    else none

end DeckPress.Picture.Tags
