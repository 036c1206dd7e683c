import DeckPress.Number.Hexadecimal
import DeckPress.Picture.Words

/-!
# Heads of text

Pictures whose head consists of lines of text: some are text of a program, some lists of names and
values. They are known, but no slide can hold them.
-/
namespace DeckPress.Picture.TextHead

open Number Text

/-! ## Definitions of a program -/

def after? (s : String) (cs : List Char) : Option (List Char) :=
  if startsWith cs s then some (cs.drop s.length) else none

def someOf? (p : Char → Bool) (cs : List Char) : Option (List Char × List Char) :=
  let (found, rest) := cs.span p
  if found.isEmpty then none else some (found, rest)

/-- What a reader gives at the last place of a line where it succeeds. -/
def lastOnLine {α : Type} (read : List Char → Option α) : List Char → Option α
  | [] => none
  | c :: cs =>
    if c == '\n' then none
    else
      match lastOnLine read cs with
      | some a => some a
      | none => read (c :: cs)

/-- A line that gives a number to a name with an ending; what follows it has to be readable. -/
def definition {α : Type} (ending : String) (read : Nat → List Char → Option α)
    (cs : List Char) : Option α := do
  let (_, rest) ← someOf? isSpaceOrTab (← after? "#define" cs)
  lastOnLine (fun cs => do
    let (_, rest) ← someOf? isSpaceOrTab (← after? ending cs)
    let (digits, rest) ← someOf? isPlainDigit rest
    let (_, rest) ← someOf? isLineEnd rest
    read (digitsValue digits) rest) rest

def occurs (s : String) : List Char → Bool
  | [] => s.isEmpty
  | c :: cs => startsWith (c :: cs) s || occurs s cs

/-- So much of a file is looked at. -/
def xbmWindow : Nat := 512

def xbm (bs : Bytes) : Except Fault Size := do
  let cs := (chars (bs.take xbmWindow)).dropWhile isGap
  expect (startsWith ((chars (bs.take 16)).dropWhile isGap) "#define")
  let (width, height) ← required (definition "_width" (fun width =>
    definition "_height" fun height rest =>
      if occurs "_bits[]" rest then some (width, height) else none) cs)
  Size.checked ⟨width, height⟩

def digitsBeforeSpace? (cs : List Char) : Option (List Char × List Char) :=
  match cs.span isPlainDigit with
  | (digits, ' ' :: rest) => some (digits, rest)
  | _ => none

/-- A line that begins with a quote and four numbers, any of which may be missing. -/
def xpmNumbers? : List Char → Option (List (List Char))
  | '"' :: cs => do
    let (width, cs) ← digitsBeforeSpace? cs
    let (height, cs) ← digitsBeforeSpace? cs
    let (colors, cs) ← digitsBeforeSpace? cs
    return [width, height, colors, cs.takeWhile isPlainDigit]
  | _ => none

def xpmHead (left : Nat) (cs : List Char) : Except Fault (List (List Char) × List Char) :=
  match left with
  | 0 => .error .unknown
  | left + 1 =>
    let (line, rest) := splitLine cs
    match xpmNumbers? line with
    | some numbers => .ok (numbers, rest)
    | none => if line.isEmpty then .error .unknown else xpmHead left rest

/-- The color after the first `c` among names and values: none, or a number in base sixteen. -/
def xpmColor : List (List Char) → Except Fault Unit
  | [] => .error (.damaged "cannot read this XPM file")
  | ['c'] :: rest => do
    let color ← required rest.head?
    if startsWith color "#" then
      let number := color.drop 1
      if (Hexadecimal.parse? number).isNone then
        throw (.damaged ("invalid literal for int() with base 16: " ++ shownBytes number))
    else if color ≠ "None".toList then throw (.damaged "cannot read this XPM file")
  | [_] => .error (.damaged "cannot read this XPM file")
  | _ :: _ :: rest => xpmColor rest

/-- So many lines, one for each color. The characters that stand for it come first, and the end of
the line is a quote and a comma. -/
def xpmColors (size : Nat) : Nat → List Char → Except Fault Unit
  | 0, _ => .ok ()
  | left + 1, cs => do
    let (line, rest) := splitLine cs
    let line := (line.reverse.dropWhile isGap).reverse
    xpmColor (gapWords ((line.take (line.length - 2)).drop (size + 1)))
    xpmColors size left rest

def xpm (bs : Bytes) : Except Fault Size := do
  expect (begins bs "/* XPM */")
  let (numbers, rest) ← xpmHead (bs.length + 1) (chars (bs.drop 9))
  match ← numbers.mapM integer with
  | [width, height, colors, size] =>
    xpmColors size.toNat colors.toNat rest
    Size.ofInts width height
  | _ => throw .unknown

/-! ## Names and values -/

def afterComments (left : Nat) (cs : List Char) : Except Fault (List Char) :=
  match left with
  | 0 => .error .unknown
  | left + 1 =>
    let (line, rest) := splitLine cs
    match line with
    | [] => .error .unknown
    | '#' :: _ => afterComments left rest
    | _ => .ok line

def xv (bs : Bytes) : Except Fault Size := do
  expect (begins bs "P7 332")
  let (_, rest) := splitLine (chars (bs.drop 6))
  match gapWords (← afterComments (bs.length + 1) rest) with
  | width :: height :: _ => Size.ofInts (← integer width) (← integer height)
  | words =>
    throw (.damaged
      ("not enough values to unpack (expected 2, got " ++ toString words.length ++ ")"))

/-- Text has a line end among its first characters, and no longer lines than this. -/
def lineLimit : Nat := 100

structure ImtHead where
  width : Int := 0
  height : Int := 0
  isKnown : Bool := false

def imtField? (line : List Char) : Option (List Char × List Char) :=
  match line.span fun c => 'a' ≤ c && c ≤ 'z' with
  | (name, ' ' :: rest) => some (name, rest.takeWhile fun c => c != ' ' && !isLineEnd c)
  | _ => none

def ImtHead.put (h : ImtHead) (name value : List Char) : Except Fault ImtHead :=
  match String.ofList name with
  | "width" => return { h with width := ← integer value }
  | "height" => return { h with height := ← integer value }
  | "pixel" => .ok { h with isKnown := h.isKnown || value == "n8".toList }
  | _ => .ok h

/-- Lines up to one that is none of names and values, or that begins with a form feed. -/
def imtLines (left : Nat) (h : ImtHead) (cs : List Char) : Except Fault ImtHead :=
  match left with
  | 0 => .ok h
  | left + 1 => do
    let (line, rest) := cs.span (· != '\n')
    if line.length ≤ 1 ∨ lineLimit < line.length then return h
    if line.head? == some '\x0c' then return h
    if line.head? == some '*' then imtLines left h (rest.drop 1)
    else
      match imtField? line with
      | some (name, value) => imtLines left (← h.put name value) (rest.drop 1)
      | none => return h

def imt (bs : Bytes) : Except Fault Size := do
  expect ((chars (bs.take lineLimit)).contains '\n')
  let h ← imtLines (bs.length + 1) {} (chars bs)
  expect h.isKnown
  Size.ofInts h.width h.height

structure ImHead where
  sides : List Numeral := [.finite false 512 0, .finite false 512 0]
  hasMode : Bool := true
  hasPalette : Bool := false
  isKnown : Bool := false

def imField? (line : List Char) : Option (List Char × List Char) :=
  match line.span (· != ':') with
  | (c :: name, ':' :: rest) =>
    if c.isAlpha then some (c :: name, rest.dropWhile isSpaceOrTab) else none
  | _ => none

def imNumber (w : List Char) : Except Fault Numeral :=
  match readNumeral w with
  | some n => .ok n
  | none =>
    .error (.damaged ("could not convert string to float: " ++ quoted (String.ofList w)))

def imNumbers (value : List Char) : Except Fault (List Numeral) :=
  (pieces (fun c => c == ',' || c == '*') value).mapM imNumber

def ImHead.put (h : ImHead) (name value : List Char) : Except Fault ImHead :=
  let known := { h with isKnown := true }
  match String.ofList name with
  | "Image size (x*y)" => return { known with sides := ← imNumbers value }
  | "File size (no of images)" => do
    let _ ← imNumbers value
    return known
  | "Scale (x,y)" => do
    let _ ← imNumbers value
    return known
  | "Image type" => .ok { known with hasMode := !value.isEmpty }
  | "Lut" => .ok { known with hasPalette := true }
  | "Comment" => .ok known
  | "Date" => .ok known
  | "Digitalization equipment" => .ok known
  | "Name" => .ok known
  | _ => .ok h

def withoutEnd (line : List Char) : List Char :=
  match line.reverse with
  | '\n' :: '\r' :: rest => rest.reverse
  | '\n' :: rest => rest.reverse
  | _ => line

/-- Lines up to a zero or the mark that ends the text; what follows begins with it. -/
def imLines (left : Nat) (h : ImHead) (cs : List Char) : Except Fault (ImHead × List Char) :=
  match left, cs with
  | 0, _ => .error .unknown
  | _, [] => .ok (h, [])
  | left + 1, c :: rest =>
    if c == '\r' then imLines left h rest
    else if c == '\x00' || c == '\x1a' then .ok (h, c :: rest)
    else do
      let (line, next) := splitLine rest
      expect (line.length < lineLimit)
      let (name, value) ← required (imField? (withoutEnd (c :: line)))
      imLines left (← h.put name value) next

/-- A palette has three numbers for each gray; the third is looked for if the first two agree. -/
def hasPalette (bs : Bytes) : Bool :=
  (List.range 256).all fun n =>
    match bs[n]?, bs[n + 256]? with
    | some a, some b => a != b || 512 + n < bs.length
    | _, _ => false

/-- The whole part of a side, at least one unless there is nothing of it. -/
def imSide (n : Numeral) : Nat :=
  let x := n.toFloat
  if x.isNaN then 1
  else if x ≤ 0 then 0
  else if x.isInf then pixelLimit + 1
  else max 1 (truncated x).toNat

def im (bs : Bytes) : Except Fault Size := do
  expect ((chars (bs.take lineLimit)).contains '\n')
  let (h, rest) ← imLines (bs.length + 1) {} (chars bs)
  expect h.isKnown
  let rest := rest.dropWhile (· != '\x1a')
  expect !rest.isEmpty
  if h.hasPalette then expect (hasPalette ((bs.drop (bs.length + 1 - rest.length)).take 768))
  expect h.hasMode
  match h.sides with
  | width :: height :: _ => Size.checked ⟨imSide width, imSide height⟩
  | _ => throw .unknown

end DeckPress.Picture.TextHead
