import DeckPress.Scalar
import DeckPress.Number.Format
import DeckPress.Text.Quoted

/-!
# Lengths

A length is a number of inches, or a share of an extent of the canvas in percent. A share keeps
the digits in which it was given; an accepted length is finite, and an accepted size positive.
-/
namespace DeckPress

/-- A share in percent by its digits before and after the point; without digits after the point
it has none. -/
structure Percent where
  whole : List Char
  fraction : List Char
deriving Repr, DecidableEq

namespace Percent

open Text

def chars (p : Percent) : List Char :=
  p.whole ++ (if p.fraction.isEmpty then [] else '.' :: p.fraction) ++ ['%']

def text (p : Percent) : String := String.ofList p.chars

def value {α : Type} [Scalar α] (p : Percent) : α :=
  Scalar.decimal (digitsValue (p.whole ++ p.fraction)) p.fraction.length

def share {α : Type} [Scalar α] (p : Percent) : α := p.value / Scalar.whole 100

/-- Digits of any script, a point only with digits after it, and blanks before the sign. -/
def readUnpadded? (cs : List Char) : Option Percent :=
  let (whole, rest) := cs.span isDigit
  let (fraction, rest) :=
    match rest with
    | '.' :: tail =>
      let (digits, after) := tail.span isDigit
      if digits.isEmpty then ([], rest) else (digits, after)
    | _ => ([], rest)
  if !whole.isEmpty && rest.dropWhile isBlank == ['%'] then some ⟨whole, fraction⟩ else none

def read? (s : String) : Option Percent := readUnpadded? (trim s.toList)

end Percent

def NonFinite.text : NonFinite → String
  | notANumber => "nan"
  | infinite negative => if negative then "-inf" else "inf"

inductive Length (α : Type)
  | inches (x : α)
  | percent (p : Percent)
deriving Repr, DecidableEq

namespace Length

inductive Fault
  | unreadable (text : String)
  | notFinite (x : NonFinite)
  | notPositive
  | notPositiveShare
deriving Repr, DecidableEq

def Fault.message : Fault → String
  | unreadable text => "expected inches or a percentage like '80%', got " ++ Text.quoted text
  | notFinite x => "expected a finite length, got " ++ x.text
  | notPositive => "size must be greater than 0"
  | notPositiveShare => "size must be greater than 0%"

variable {α : Type} [Scalar α]

/-- Accepts finite numbers, of sizes only the positive ones. -/
def checkInches (positive : Bool) (x : α) : Except Fault (Length α) :=
  match Scalar.nonFinite? x with
  | some n => .error (.notFinite n)
  | none => if positive && !decide (Scalar.zero < x) then .error .notPositive else .ok (.inches x)

/-- Accepts any share, of sizes only the positive ones. -/
def checkPercent (positive : Bool) (p : Percent) : Except Fault (Length α) :=
  if positive && !decide ((Scalar.zero : α) < p.value) then .error .notPositiveShare
  else .ok (.percent p)

/-- A text that spells a number is a length in inches; any other has to be a share. -/
def checkText (positive : Bool) (s : String) : Except Fault (Length Float) :=
  match Number.readNumeral s.toList with
  | some n => checkInches positive n.toFloat
  | none =>
    match Percent.read? s with
    | some p => checkPercent positive p
    | none => .error (.unreadable s)

def isPercent : Length α → Bool
  | inches _ => false
  | percent _ => true

def onExtent (extent : α) : Length α → α
  | inches x => x
  | percent p => p.share * extent

end Length

end DeckPress
