import DeckPress.Number.Shortest

/-!
# Written doubles

A double is written with its shortest digits, and always with a point or an exponent, so that it
reads back as a double.
-/
namespace DeckPress.Number

/-- How doubles are written. The exponent of the leading digit decides between the positional
and the exponent form. -/
structure Format where
  /-- The least exponent that is written positionally. -/
  least : Int
  /-- The least exponent above it that is not. -/
  bound : Int
  exponentWidth : Nat
  nan : String
  infinity : String

namespace Format

def significant (d : Decimal) : List Char × Int :=
  let all := Nat.toDigits 10 d.digits
  let kept := (all.reverse.dropWhile (· == '0')).reverse
  (kept, d.exponent + all.length - 1)

def positional (digits : List Char) (e : Int) : List Char :=
  if e < 0 then '0' :: '.' :: (List.replicate (-e - 1).toNat '0' ++ digits)
  else
    let whole := digits.take (e.toNat + 1)
    let rest := digits.drop (e.toNat + 1)
    whole ++ List.replicate (e.toNat + 1 - whole.length) '0' ++
      '.' :: (if rest.isEmpty then ['0'] else rest)

def scientific (width : Nat) (digits : List Char) (e : Int) : List Char :=
  let power := Nat.toDigits 10 e.natAbs
  let rest := digits.drop 1
  digits.take 1 ++ (if rest.isEmpty then [] else '.' :: rest) ++
    'e' :: (if e < 0 then '-' else '+') ::
      (List.replicate (width - power.length) '0' ++ power)

def write (f : Format) (x : Float) : String :=
  if x.isNaN then f.nan
  else
    let sign := if isNegative x then "-" else ""
    if x.isInf then sign ++ f.infinity
    else if x == 0 then sign ++ "0.0"
    else
      let (digits, e) := significant (shortest x)
      let body :=
        if f.least ≤ e ∧ e < f.bound then positional digits e
        else scientific f.exponentWidth digits e
      sign ++ String.ofList body

end Format

/-- Messages show a double positionally from `0.0001` up to `10 ^ 16`. -/
def shown : Format := ⟨-4, 16, 2, "nan", "inf"⟩

def quotedData : Format := ⟨-4, 16, 2, "NaN", "Infinity"⟩

/-- The text of a deck writes doubles positionally from `0.00001` up to `10 ^ 16`. -/
def deckText : Format := ⟨-5, 16, 1, "NaN", "Infinity"⟩

end DeckPress.Number
