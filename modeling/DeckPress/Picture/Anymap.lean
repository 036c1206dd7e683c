import DeckPress.Picture.Words

/-!
# Anymaps

Pictures whose head is text: a mark, then numbers between blanks and comments. They are known,
and a head that is wrong is reported in words, but no slide can hold them.
-/
namespace DeckPress.Picture.Anymap

open Number Text

/-- What follows the width and the height of an anymap. -/
inductive Kind
  | bits
  | levels
  | reals
deriving Repr, DecidableEq

def marks : List (String × Kind) :=
  [("P1", .bits), ("P2", .levels), ("P3", .levels), ("P4", .bits), ("P5", .levels),
    ("P6", .levels), ("P0CMYK", .levels), ("Pf", .reals), ("PyP", .levels), ("PyRGBA", .levels),
    ("PyCMYK", .levels)]

def markLimit : Nat := 6

def mark (cs : List Char) : String × List Char :=
  let word := (cs.take markLimit).takeWhile fun c => !isGap c
  let size := if word.length < markLimit then word.length + 1 else markLimit
  (String.ofList word, cs.drop size)

def wordLimit : Nat := 10

/-- The characters up to the next blank, without comments, and what follows; one more than the
limit is enough. A comment lasts to the end of its line. -/
def word (comment : Bool) (read : List Char) : List Char → List Char × List Char
  | [] => (read.reverse, [])
  | c :: cs =>
    if wordLimit < read.length && !comment then (read.reverse, c :: cs)
    else if comment then word (c != '\r' && c != '\n') read cs
    else if isGap c then if read.isEmpty then word false read cs else (read.reverse, cs)
    else if c == '#' then word true read cs
    else word false (c :: read) cs

def nextWord (cs : List Char) : Except Fault (List Char × List Char) :=
  let (w, rest) := word false [] cs
  if w.isEmpty then .error (.damaged "Reached EOF while reading header")
  else if wordLimit < w.length then
    .error (.damaged (quotedBytes ("Token too long in file header: ".toList ++ w)))
  else .ok (w, rest)

def nextInteger (cs : List Char) : Except Fault (Int × List Char) := do
  let (w, rest) ← nextWord cs
  return (← integer w, rest)

def checkLevels (cs : List Char) : Except Fault Unit := do
  let (greatest, _) ← nextInteger cs
  if greatest ≤ 0 ∨ 65536 ≤ greatest then
    throw (.damaged "maxval must be greater than 0 and less than 65536")

def checkScale (cs : List Char) : Except Fault Unit := do
  let (w, _) ← nextWord cs
  match (Numeral.withoutSeparators? none w).bind Numeral.parse? with
  | none => throw (.damaged ("could not convert string to float: " ++ quotedBytes w))
  | some n =>
    if n.toFloat == 0 || !n.toFloat.isFinite then
      throw (.damaged "scale must be finite and non-zero")

def read (bs : Bytes) : Except Fault Size := do
  let (m, rest) := mark (chars bs)
  let kind ← required (marks.lookup m)
  let (width, rest) ← nextInteger rest
  let (height, rest) ← nextInteger rest
  match kind with
  | .bits => pure ()
  | .levels => checkLevels rest
  | .reals => checkScale rest
  Size.ofInts width height

end DeckPress.Picture.Anymap
