import DeckPress.Text.Blank
import DeckPress.Text.Digit

/-!
# Numerals

Texts that spell a number: an optional sign, then digits with an optional point and an optional
power of ten, or one of the words for infinity and for no number. `readNumeral` admits digits of
all scripts and underscores between digits, `readPlainNumeral` ASCII digits only.
-/
namespace DeckPress.Number

inductive Numeral
  /-- The number `digits · 10 ^ exponent`, or its negative. -/
  | finite (negative : Bool) (digits : Nat) (exponent : Int)
  | infinite (negative : Bool)
  | notANumber
deriving Repr, DecidableEq

namespace Numeral

open Text

/-- The nearest double. Powers of ten beyond all doubles are settled first. -/
def magnitude (digits : Nat) (exponent : Int) : Float :=
  if digits = 0 then 0
  else if 400 < exponent then 1 / 0
  else if exponent + digits.log2 < -400 then 0
  else if exponent < 0 then Float.ofScientific digits true exponent.natAbs
  else Float.ofScientific digits false exponent.natAbs

def toFloat : Numeral → Float
  | finite negative digits exponent =>
    if negative then -magnitude digits exponent else magnitude digits exponent
  | infinite negative => if negative then -1 / 0 else 1 / 0
  | notANumber => 0 / 0

/-- Splits off a leading sign; true means minus. -/
def signed : List Char → Bool × List Char
  | '-' :: cs => (true, cs)
  | '+' :: cs => (false, cs)
  | cs => (false, cs)

def power? : List Char → Option Int
  | [] => some 0
  | c :: cs =>
    if c == 'e' || c == 'E' then
      let (negative, ds) := signed cs
      if !ds.isEmpty && ds.all isPlainDigit then
        some (if negative then -(digitsValue ds : Int) else digitsValue ds)
      else none
    else none

/-- Digits, a point and digits, at least one digit in all, and a power of ten. -/
def unsigned? (negative : Bool) (cs : List Char) : Option Numeral :=
  let (whole, rest) := cs.span isPlainDigit
  let (fraction, rest) :=
    match rest with
    | '.' :: rest => rest.span isPlainDigit
    | _ => ([], rest)
  if whole.isEmpty && fraction.isEmpty then none
  else (power? rest).map fun e =>
    .finite negative (digitsValue (whole ++ fraction)) (e - fraction.length)

def parse? (cs : List Char) : Option Numeral :=
  let (negative, body) := signed cs
  match String.ofList (body.map Char.toLower) with
  | "inf" => some (.infinite negative)
  | "infinity" => some (.infinite negative)
  | "nan" => some .notANumber
  | _ => unsigned? negative body

/-- Removes the underscores if each stands between two ASCII digits. -/
def withoutSeparators? : Option Char → List Char → Option (List Char)
  | _, [] => some []
  | before, '_' :: cs =>
    match before, cs with
    | some b, c :: cs' =>
      if isPlainDigit b && isPlainDigit c then (withoutSeparators? (some c) cs').map (c :: ·)
      else none
    | _, _ => none
  | _, c :: cs => (withoutSeparators? (some c) cs).map (c :: ·)

/-- Blanks that may surround a numeral: all but the four separators. -/
def isMargin (c : Char) : Bool := isBlank c && !(0x1C ≤ c.toNat && c.toNat ≤ 0x1F)

end Numeral

open Numeral Text in
def readNumeral (cs : List Char) : Option Numeral := do
  let plain := (trimBy isMargin cs).map plainDigit
  parse? (← withoutSeparators? none plain)

/-- Unicode white space, which leaves out the four separators. -/
def isWhiteSpace (c : Char) : Bool := Numeral.isMargin c

open Numeral Text in
/-- Reads a numeral of ASCII digits with white space around. A text that is none may still be one
after its single underscores are removed, wherever inside they stand. -/
def readPlainNumeral (cs : List Char) : Option Numeral :=
  match parse? (trimBy isWhiteSpace cs) with
  | some n => some n
  | none =>
    if cs.contains '_' && cs.head? != some '_' && cs.getLast? != some '_' &&
        !(cs.zip (cs.drop 1)).contains ('_', '_') then
      parse? (cs.filter (· != '_'))
    else none

end DeckPress.Number
