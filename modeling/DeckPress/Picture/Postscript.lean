import DeckPress.Number.Binary
import DeckPress.Picture.Words

/-!
# Encapsulated programs

A picture that is a program in lines of text. Comments tell the box that it draws in: in a header,
or at the end of the program, where the last box counts. A line of a program that embeds image
data may tell its size instead.

Lines are collected in a buffer that keeps what longer lines before have left behind, and what
lines begin with is read from that buffer.
-/
namespace DeckPress.Picture.Postscript

open Number Text

structure State where
  /-- What the current line and longer ones before it have left. -/
  buffer : List Char := []
  size : Nat := 0
  inHeader : Bool := true
  inTrailer : Bool := false
  /-- The box is told in the trailer. -/
  boxAtEnd : Bool := false
  hasMark : Bool := false
  hasBox : Bool := false
  /-- The corners of the box; nothing if there is none yet. -/
  box : List Int := []
  imageSize : Option (Int × Int) := none

def lineLimit : Nat := 255

namespace State

def line (s : State) : List Char := s.buffer.take s.size

def begins (s : State) (word : String) : Bool := startsWith s.buffer word

def checkHeader (s : State) : Except Fault Unit := expect (s.hasMark && s.hasBox)

/-- One more character of the current line. Lines that are too long are data, unless they begin
like a comment. -/
def push (c : Char) (s : State) : Except Fault State := do
  if s.size < lineLimit then
    return { s with buffer := s.line ++ c :: s.buffer.drop (s.size + 1), size := s.size + 1 }
  else
    expect !(s.begins "%")
    if s.inHeader then s.checkHeader
    return { s with buffer := c :: s.buffer.drop 1, size := 1, inHeader := false }

def corner? (w : List Char) : Option Int := do
  let x := (← readNumeral w).toFloat
  if x.isFinite then some (truncated x) else none

/-- The box of a comment: the first one in the header, the last one in the trailer. -/
def putBox (value : List Char) (s : State) : State :=
  let s := { s with hasBox := true }
  if value == "(atend)".toList then { s with boxAtEnd := true }
  else if s.box.isEmpty || (s.inTrailer && s.boxAtEnd) then
    match (words value).mapM corner? with
    | some box => { s with box := box }
    | none => s
  else s

def comment? (line : List Char) : Option (List Char × List Char) :=
  match line with
  | '%' :: '%' :: cs =>
    match cs.span (· != ':') with
    | (name, ':' :: value) => some (name, value.dropWhile isSpaceOrTab)
    | _ => none
  | _ => none

def putComment (name value : List Char) (s : State) : State :=
  if name == "BoundingBox".toList then s.putBox value
  else if name == "PS-Adobe".toList then { s with hasMark := true }
  else s

def isWordChar (c : Char) : Bool :=
  c.isAlphanum || c == '_' ||
    [0xAA, 0xB2, 0xB3, 0xB5, 0xB9, 0xBA, 0xBC, 0xBD, 0xBE].contains c.toNat ||
    (0xC0 ≤ c.toNat && c.toNat ≠ 0xD7 && c.toNat ≠ 0xF7)

def field? (line : List Char) : Option (List Char) :=
  match line with
  | '%' :: c :: name =>
    if (c == '%' || c == '!' || isWordChar c) && !name.contains ':' then some name else none
  | _ => none

def putField (name : List Char) (s : State) : State :=
  if startsWith name "PS-Adobe" then { s with hasMark := true }
  else if name == "BoundingBox".toList then { s with hasBox := true }
  else s

/-- A line of the header. The line that ends it is not forgotten: the next one is added to it. -/
def headerLine (s : State) : Except Fault State := do
  if !s.begins "%" || s.begins "%%EndComments" then
    s.checkHeader
    return { s with inHeader := false }
  else
    let s' :=
      match comment? s.line with
      | some (name, value) => s.putComment name value
      | none =>
        match field? s.line with
        | some name => s.putField name
        | none => s
    return { s' with size := 0 }

/-- What comes after a line: more of them, from some characters further on or back, or nothing. -/
inductive Next
  | more (s : State) (skip : Int)
  | done (s : State)

def imageLine (s : State) : Except Fault Next := do
  let numbers ← ((gapWords (s.line.drop 11)).take 4).mapM integer
  match numbers with
  | [columns, rows, depth, colors] =>
    if depth ≠ 1 ∧ depth ≠ 8 then return .done s
    if depth = 8 then expect (1 ≤ colors && colors ≤ 4)
    return .more { s with size := 0, imageSize := some (columns, rows) } 0
  | _ =>
    throw (.damaged
      ("not enough values to unpack (expected 4, got " ++ toString numbers.length ++ ")"))

def bodyLine (s : State) : Except Fault Next := do
  let next := { s with size := 0 }
  if s.begins "%ImageData:" then
    if s.imageSize.isSome then return .more next 0 else s.imageLine
  else if s.begins "%%EOF" then return .done s
  else if s.inTrailer && s.boxAtEnd then
    match comment? s.line with
    | some (name, value) => return .more (next.putComment name value) 0
    | none => return .more next 0
  else if s.begins "%%Trailer" then return .more { next with inTrailer := true } 0
  else if s.begins "%%BeginBinary:" then return .more next (← integer (s.line.drop 14))
  else return .more next 0

def endLine (s : State) : Except Fault Next := do
  if s.inHeader then return .more (← s.headerLine) 0 else s.bodyLine

end State

/-- What is left of a text after so many more characters, or fewer. -/
def moved (all rest : List Char) (skip : Int) : List Char :=
  if skip = 0 then rest else all.drop (((all.length - rest.length : Nat) : Int) + skip).toNat

def scan (all : List Char) (left : Nat) (s : State) (rest : List Char) : Except Fault State :=
  match left with
  | 0 => .error .unknown
  | left + 1 =>
    match rest with
    | [] =>
      if s.size = 0 then do
        if s.inHeader then s.checkHeader
        return s
      else do
        match ← s.endLine with
        | .done s => return s
        | .more s skip => scan all left s (moved all [] skip)
    | c :: rest =>
      if !isLineEnd c then do scan all left (← s.push c) rest
      else if s.size = 0 then scan all left s rest
      else do
        match ← s.endLine with
        | .done s => return s
        | .more s skip => scan all left s (moved all rest skip)

def mark : String := "%!PS"

def wrapperMark : Bytes := [0xC5, 0xD0, 0xD3, 0xC6]

def start (bs : Bytes) : Except Fault Nat := do
  if begins bs mark then return 0
  expect (wrapperMark.isPrefixOf bs)
  let _ ← part bs 8 4
  littleAt bs 4 4

def read (bs : Bytes) : Except Fault Size := do
  let cs := chars (bs.drop (← start bs))
  let s ← scan cs (16 * cs.length + 64) {} cs
  if s.box.isEmpty then throw .unreadable
  match s.imageSize, s.box with
  | some (columns, rows), _ => Size.ofInts columns rows
  | none, left :: bottom :: right :: top :: _ => Size.ofInts (right - left) (top - bottom)
  | none, _ => throw .unknown

end DeckPress.Picture.Postscript
