import DeckPress.Picture.Bytes

/-!
# Pictures as frames of film

A picture that is one frame of film, in boxes within boxes. The box with the description tells which
item is the picture, of which kind each item is, and what extent they have.
-/
namespace DeckPress.Picture.Avif

structure Box where
  kind : Bytes
  data : Bytes
  isWhole : Bool

/-- The first of some boxes, and what comes after it. Its size includes its head, which is longer if
the size is; a size of zero is that of all that is left. -/
def box? (bs : Bytes) : Option (Box × Bytes) := do
  let told := big (← part? bs 0 4)
  let kind ← part? bs 4 4
  let head := if told = 1 then 16 else 8
  let size ← if told = 1 then (part? bs 8 8).map big else some (if told = 0 then bs.length else told)
  if size < head then none
  let data := (bs.drop head).take (size - head)
  return (⟨kind, data, data.length = size - head⟩, bs.drop size)

def boxes (left : Nat) (bs : Bytes) : List Box :=
  match left, box? bs with
  | left + 1, some (b, rest) => b :: boxes left rest
  | _, _ => []

def boxesOf (bs : Bytes) : List Box := boxes bs.length bs

def content (bs : List Box) (kind : String) : Except Fault Bytes := do
  let b ← required (bs.find? (·.kind == ascii kind))
  expect b.isWhole
  return b.data

def brands : List Bytes := ["avif", "avis", "mif1", "msf1"].map ascii

def versionSize : Nat := 4

/-- A number that takes twice as many bytes in later versions. -/
def versioned (data : Bytes) (last : Nat) : Except Fault Nat := do
  if (← byteAt data 0) ≤ last then bigAt data versionSize 2 else bigAt data versionSize 4

def afterVersioned (data : Bytes) (last : Nat) : Except Fault Bytes := do
  return data.drop (versionSize + if (← byteAt data 0) ≤ last then 2 else 4)

/-- Kinds of items that are pictures: one frame, or several side by side. -/
def itemKinds : List Bytes := ["av01", "grid"].map ascii

def describes (item : Nat) (b : Box) : Bool :=
  b.kind == ascii "infe" &&
    match versioned b.data 2, afterVersioned b.data 2 with
    | .ok n, .ok rest => n = item && itemKinds.contains ((rest.drop 2).take 4)
    | _, _ => false

def described (data : Bytes) : Except Fault Size := do
  expect ((← byteAt data 0) = 0)
  let parts := boxesOf (data.drop versionSize)
  expect ((parts.head?.map (·.kind)) == some (ascii "hdlr"))
  expect (part? (← content parts "hdlr") 8 4 == some (ascii "pict"))
  let item ← versioned (← content parts "pitm") 0
  let _ ← content parts "iloc"
  let items ← afterVersioned (← content parts "iinf") 0
  expect ((boxesOf items).any (describes item))
  let properties := boxesOf (← content (boxesOf (← content parts "iprp")) "ipco")
  let _ ← content properties "av1C"
  let extent ← content properties "ispe"
  return ⟨← bigAt extent 4 4, ← bigAt extent 8 4⟩

def read (bs : Bytes) : Except Fault Size := do
  let parts := boxesOf bs
  expect (part? bs 4 4 == some (ascii "ftyp") && brands.contains ((bs.drop 8).take 4))
  let mark ← content parts "ftyp"
  expect (mark.length % 4 = 0)
  let isOf (brand : String) : Bool :=
    (List.range (mark.length / 4)).any fun k => k ≠ 1 && part? mark (4 * k) 4 == some (ascii brand)
  expect (isOf "avif" || isOf "avis")
  if isOf "avis" then
    let _ ← content parts "moov"
  (← described (← content parts "meta")).checked

end DeckPress.Picture.Avif
