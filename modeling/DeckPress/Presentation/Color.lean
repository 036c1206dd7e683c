import DeckPress.Number.Hexadecimal
import DeckPress.Text.Quoted

/-!
# Colors

A color is written as three hexadecimal numbers without separators: two characters for red, two
for green, and all the rest for blue. Each is read like any number in base sixteen.
-/
namespace DeckPress

structure Color where
  red : Fin 256
  green : Fin 256
  blue : Fin 256
deriving Repr, DecidableEq

namespace Color

open Text

inductive Fault
  | notHexadecimal (part : String)
  | outOfRange
deriving Repr, DecidableEq

def shownLimit : Nat := 200

def Fault.message : Fault → String
  | notHexadecimal part =>
    "invalid literal for int() with base 16: " ++
      String.ofList ((quoted part).toList.take shownLimit)
  | outOfRange => "RGBColor() takes three integer values 0-255"

def readPart (cs : List Char) : Except Fault Int :=
  match Number.Hexadecimal.read? cs with
  | some n => .ok n
  | none => .error (.notHexadecimal (String.ofList cs))

def channel (n : Int) : Except Fault (Fin 256) :=
  if h : 0 ≤ n ∧ n < 256 then .ok ⟨n.toNat, by omega⟩ else .error .outOfRange

/-- All three numbers are read before any of them is found too large. -/
def read (s : String) : Except Fault Color := do
  let cs := s.toList
  let r ← readPart (cs.take 2)
  let g ← readPart ((cs.drop 2).take 2)
  let b ← readPart (cs.drop 4)
  return ⟨← channel r, ← channel g, ← channel b⟩

def upperHex (n : Nat) : List Char := (Quoted.hex 2 n).map Char.toUpper

def text (c : Color) : String :=
  String.ofList (upperHex c.red ++ upperHex c.green ++ upperHex c.blue)

end Color

end DeckPress
