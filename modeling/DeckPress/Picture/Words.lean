import DeckPress.Number.Numeral
import DeckPress.Picture.Bytes
import DeckPress.Text.Quoted

/-!
# Words in the head of a picture

Some pictures begin with text: lines, words between blanks, and numbers that are spelled out. A
word that spells no number is reported in words.
-/
namespace DeckPress.Picture

open Number Text

def chars (bs : Bytes) : List Char := bs.map fun b => Char.ofNat b.toNat

def isGap (c : Char) : Bool := c == ' ' || (0x09 ≤ c.toNat && c.toNat ≤ 0x0D)

def isSpaceOrTab (c : Char) : Bool := c == ' ' || c == '\t'

def isLineEnd (c : Char) : Bool := c == '\r' || c == '\n'

def gapWords (cs : List Char) : List (List Char) := (pieces isGap cs).filter (!·.isEmpty)

def splitLine (cs : List Char) : List Char × List Char :=
  let (line, rest) := cs.span (· != '\n')
  (line ++ rest.take 1, rest.drop 1)

/-- Whether a line, as far as it is there, begins with a text. -/
def startsWith (cs : List Char) (s : String) : Bool := s.toList.isPrefixOf cs

def quotedBytes (cs : List Char) : String :=
  let q := Quoted.quoteFor cs
  let quoteByte (c : Char) : List Char :=
    if c.toNat < 0x7F then Quoted.quoteChar q c else '\\' :: 'x' :: Quoted.hex 2 c.toNat
  String.ofList ('b' :: q :: cs.flatMap quoteByte ++ [q])

def shownBytes (cs : List Char) : String :=
  String.ofList ((quotedBytes (cs.take 200)).toList.take 200)

/-- The integer that digits spell, with a sign, blanks around and underscores between digits. -/
def integer? (w : List Char) : Option Int := do
  let (negative, ds) := Numeral.signed (← Numeral.withoutSeparators? none (trimBy isGap w))
  if ds.isEmpty || !ds.all isPlainDigit then none
  else
    let n : Int := digitsValue ds
    return if negative then -n else n

def integer (w : List Char) : Except Fault Int :=
  match integer? w with
  | some n => .ok n
  | none => .error (.damaged ("invalid literal for int() with base 10: " ++ shownBytes w))

end DeckPress.Picture
