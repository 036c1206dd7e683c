import DeckPress.Picture.Words

/-!
# Pictures of the sky

The head of such a picture consists of cards of eighty characters: a name, an equals sign and a
value. A head ends with a card of its own and is followed by data in blocks of 2880 bytes. Heads
without a picture may come first.
-/
namespace DeckPress.Picture.Fits

open Text

abbrev Cards := List (String × List Char)

def cardSize : Nat := 80

def blockSize : Nat := 2880

structure State where
  cards : Cards := []
  inHead : Bool := false
  /-- Width, height, and whether pixels of that many bits are known. -/
  found : Option (Int × Int × Bool) := none

def value (cards : Cards) (name : String) : Except Fault (List Char) :=
  required (cards.lookup name)

def number (cards : Cards) (name : String) : Except Fault Int := do integer (← value cards name)

/-- The sides under names that begin alike; without a second one the first counts as the height. -/
def sides? (cards : Cards) (start : String) : Except Fault (Option (Int × Int)) := do
  let axes ← number cards (start ++ "NAXIS")
  if axes = 0 then return none
  else if axes = 1 then return some (1, ← number cards (start ++ "NAXIS1"))
  else return some (← number cards (start ++ "NAXIS1"), ← number cards (start ++ "NAXIS2"))

def isPacked (cards : Cards) : Except Fault Bool := do
  if cards.lookup "XTENSION" == some "'BINTABLE'".toList &&
      cards.lookup "ZIMAGE" == some ['T'] then
    return (← value cards "ZCMPTYPE") == "'GZIP_1  '".toList
  else return false

def knownBits : List Int := [8, 16, 32, -32, -64]

def picture? (cards : Cards) : Except Fault (Option (Int × Int × Bool)) := do
  let packed ← isPacked cards
  if packed then
    let _ ← sides? cards ""
    let _ ← number cards "BITPIX"
  let start := if packed then "Z" else ""
  match ← sides? cards start with
  | some (width, height) =>
    return some (width, height, knownBits.contains (← number cards (start ++ "BITPIX")))
  | none => return none

def cardValue (card : List Char) : List Char :=
  match trimBy isGap ((card.drop 8).takeWhile (· != '/')) with
  | '=' :: cs => trimBy isGap cs
  | cs => cs

/-- A card that is not the last one of its head. The very first one says that there is a head. -/
def State.put (s : State) (name : List Char) (card : List Char) : Except Fault State := do
  if s.found.isSome then return s
  let v := cardValue card
  if s.cards.isEmpty then expect (startsWith name "SIMPLE" && v == ['T'])
  return { s with cards := (String.ofList name, v) :: s.cards }

def scan (cs : List Char) (left place : Nat) (s : State) : Except Fault State :=
  match left with
  | 0 => .error .unreadable
  | left + 1 => do
    let card := (cs.drop place).take cardSize
    if card.isEmpty then throw .unreadable
    let next := place + card.length
    let name := trimBy isGap (card.take 8)
    if name == "SIMPLE".toList || name == "XTENSION".toList then
      scan cs left next (← { s with inHead := true }.put name card)
    else if !s.cards.isEmpty && !s.inHead then return s
    else if name == "END".toList then
      let found ← if s.found.isSome then pure s.found else picture? s.cards
      scan cs left ((next + blockSize - 1) / blockSize * blockSize)
        { s with inHead := false, found := found }
    else scan cs left next (← s.put name card)

def read (bs : Bytes) : Except Fault Size := do
  expect (begins bs "SIMPLE")
  let cs := chars bs
  match (← scan cs (cs.length + 1) 0 {}).found with
  | some (width, height, isKnown) =>
    expect isKnown
    Size.ofInts width height
  | none => throw (.damaged "No image data")

end DeckPress.Picture.Fits
