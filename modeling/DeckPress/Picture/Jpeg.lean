import DeckPress.Picture.PhotoIndex
import DeckPress.Picture.Tags

/-!
# Photographs

A photograph consists of segments, each with a mark; most have a size and data. The segments before
the scan tell the size and the density of the picture. Some of them belong to applications, which
have ways of their own to tell the density.
-/
namespace DeckPress.Picture.Jpeg

structure Head where
  size : Size := ⟨0, 0⟩
  hasMode : Bool := false
  density : Option Density := none
  tags : Option Bytes := none
  profiles : List Bytes := []
  index : Option Bytes := none
  /-- Whether another photograph tells how bright the first one can be. -/
  hasGain : Bool := false

def precedes : Bytes → Bytes → Bool
  | [], _ => true
  | _ :: _, [] => false
  | a :: as, b :: bs => a < b || (a == b && precedes as bs)

/-- The first part of a profile in alphabetical order tells how many there are. -/
def checkProfiles : List Bytes → Except Fault Unit
  | [] => .ok ()
  | p :: ps => do
    let first := ps.foldl (fun a b => if precedes a b then a else b) p
    let _ ← byteAt first 13

def layers : List Nat := [1, 3, 4]

def frame (data : Bytes) (h : Head) : Except Fault Head := do
  let size : Size := ⟨← bigAt data 3 2, ← bigAt data 1 2⟩
  expect ((← byteAt data 0) = 8 && layers.contains (← byteAt data 5))
  checkProfiles h.profiles
  expect (data.length % 3 = 0)
  return { h with size := size, hasMode := true, profiles := [] }

/-- Tables of sixty-four numbers of one or two bytes. -/
def checkTables (left : Nat) (data : Bytes) : Except Fault Unit :=
  match left, data with
  | 0, _ => .ok ()
  | _, [] => .ok ()
  | left + 1, kind :: rest => do
    let size := if kind < 16 then 64 else 128
    expect (size ≤ rest.length)
    checkTables left (rest.drop size)

/-- Densities are given per inch or per centimetre, or not at all. -/
def standard (data : Bytes) (h : Head) : Except Fault Head := do
  let _ ← part data 5 2
  match part? data 7 5 with
  | some (unit :: rest) =>
    let x := Float.ofNat (big (rest.take 2))
    let y := Float.ofNat (big (rest.drop 2))
    if unit = 1 then return { h with density := some (.ofFloats x y) }
    else if unit = 2 then return { h with density := some (.ofFloats (x * 2.54) (y * 2.54)) }
    else return h
  | _ => return h

/-- Resources: a mark, a number, a name with its length, and data with theirs. What is too short
ends them, except for the length of a name. -/
def checkResources (data : Bytes) : Nat → Nat → Except Fault Unit
  | 0, _ => .ok ()
  | left + 1, place => do
    if !begins (data.drop place) "8BIM" then return
    match part? data (place + 4) 2 with
    | none => return
    | some kind =>
      let nameEnd := place + 7 + (← byteAt data (place + 6))
      let sizePlace := nameEnd + nameEnd % 2
      match part? data sizePlace 4 with
      | none => return
      | some size =>
        let start := sizePlace + 4
        let found := ((data.drop start).take (big size)).length
        if big kind = 0x3ED ∧ found < 14 then return
        let stop := start + big size
        checkResources data left (stop + stop % 2)

def gainMark : Bytes := ascii " hdrgm:Version=\""

def application (number : Nat) (data : Bytes) (h : Head) : Except Fault Head := do
  let h := if number = 1 && occurs gainMark data then { h with hasGain := true } else h
  if number = 0 ∧ begins data "JFIF" then standard data h
  else if number = 1 ∧ begins data "Exif\x00\x00" then
    match h.tags with
    | some t => return { h with tags := some (t ++ data.drop 6) }
    | none => return { h with tags := some data }
  else if number = 2 ∧ begins data "ICC_PROFILE\x00" then
    return { h with profiles := data :: h.profiles }
  else if number = 13 ∧ begins data "Photoshop 3.0\x00" then
    checkResources data data.length 14
    return h
  else if number = 14 ∧ begins data "Adobe" then
    let _ ← part data 5 2
    return h
  else if number = 2 ∧ begins data "MPF\x00" then return { h with index := some (data.drop 4) }
  else return h

def take (mark : Nat) (data : Bytes) (h : Head) : Except Fault Head := do
  if 0xE0 ≤ mark ∧ mark < 0xF0 then application (mark - 0xE0) data h
  else if mark = 0xDB then
    checkTables data.length data
    return h
  else if [0xC4, 0xCC, 0xDA, 0xDC, 0xDD, 0xDF, 0xFE].contains mark then return h
  else frame data h

def isSingle (mark : Nat) : Bool :=
  mark = 0xC8 || (0xD0 ≤ mark && mark ≤ 0xD9) || (0xF0 ≤ mark && mark ≤ 0xFD)

/-- Segments up to the scan. What is no mark between them is skipped. -/
def segments (left : Nat) (bs : Bytes) (h : Head) : Except Fault Head :=
  match left, bs with
  | left + 1, b :: mark :: rest =>
    if b ≠ 0xFF ∨ mark = 0xFF then segments left (mark :: rest) h
    else if mark = 0 ∨ isSingle mark.toNat then segments left rest h
    else do
      expect (0xC0 ≤ mark)
      let size := (← bigAt rest 0 2) - 2
      let h ← take mark.toNat (← present (part? rest 2 size)) h
      if mark = 0xDA then return h else segments left (rest.drop (2 + size)) h
  | _, _ => .error .unknown

def withoutMarks (left : Nat) (bs : Bytes) : Bytes :=
  match left with
  | 0 => bs
  | left + 1 => if begins bs "Exif\x00\x00" then withoutMarks left (bs.drop 6) else bs

def taggedDensity (tags : Bytes) : Except Fault Density :=
  match Tags.first (withoutMarks tags.length tags) with
  | .ok (s, es) =>
    match es.lookup Tags.unitTag, (es.lookup Tags.horizontalTag).bind (·.float? s) with
    | some unit, some x =>
      let isMetric := (unit.wholes? s).any (·.head? == some Tags.centimetre)
      let x := if isMetric then x * 2.54 else x
      .ok (.ofFloats x x)
    | _, _ => .ok .unknown
  | .error .endless => .error .endless
  | .error _ => .ok .unknown

def Head.anyDensity (h : Head) : Except Fault Density :=
  match h.density, h.tags with
  | some d, _ => .ok d
  | none, some tags => taggedDensity tags
  | none, none => .ok .unknown

def signature : Bytes := [0xFF, 0xD8, 0xFF]

def read (bs : Bytes) : Except Fault Picture := do
  expect (signature.isPrefixOf bs)
  let h ← segments bs.length (bs.drop 2) {}
  let density ← h.anyDensity
  expect (h.hasMode && h.size.width ≠ 0 && h.size.height ≠ 0)
  let isSet ← (h.index.map PhotoIndex.hasSeveral).getD (pure false)
  let size ← h.size.checked
  if isSet && !h.hasGain then throw (.unsupported "MPO")
  return ⟨.jpeg, size, density⟩

end DeckPress.Picture.Jpeg
