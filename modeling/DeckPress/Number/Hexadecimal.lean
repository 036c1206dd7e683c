import DeckPress.Number.Numeral

/-!
# Numbers in base sixteen

Texts that spell an integer in base sixteen, with or without a mark in front of the digits.
-/
namespace DeckPress.Number.Hexadecimal

open Text

/-- Digits with single underscores between them; whether an underscore came last. -/
def digits? (value : Nat) (parted : Bool) : List Char → Option Nat
  | [] => if parted then none else some value
  | c :: cs =>
    if c == '_' then if parted then none else digits? value true cs
    else
      match hexValue? c with
      | some d => digits? (16 * value + d) false cs
      | none => none

/-- Drops the mark of base sixteen, and an underscore after it. -/
def withoutMark : List Char → List Char
  | '0' :: m :: cs =>
    if m == 'x' || m == 'X' then
      match cs with
      | '_' :: ds => ds
      | ds => ds
    else '0' :: m :: cs
  | cs => cs

def parse? (cs : List Char) : Option Int := do
  let (negative, rest) := Numeral.signed cs
  let ds := withoutMark rest
  if ds.isEmpty || ds.head? == some '_' then none
  let n ← digits? 0 false ds
  return if negative then -(n : Int) else n

def read? (cs : List Char) : Option Int :=
  parse? ((trimBy Numeral.isMargin cs).map plainDigit)

end DeckPress.Number.Hexadecimal
