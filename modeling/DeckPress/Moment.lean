/-!
# Moments

A date and a time of day, and the name of a file that was made then. The name tells the moment to
the millisecond and its offset from universal time; colons and points are replaced in it, so that
it is fit for every file system.
-/
namespace DeckPress

/-- A date and a time of day. The offset from universal time counts microseconds. -/
structure Moment where
  year : Nat
  month : Nat
  day : Nat
  hour : Nat := 0
  minute : Nat := 0
  second : Nat := 0
  microsecond : Nat := 0
  offset : Option Int := none
deriving Repr, DecidableEq

namespace Moment

/-- The decimal digits of a number, with leading zeros up to the width. -/
def padded (width n : Nat) : List Char :=
  let ds := Nat.toDigits 10 n
  List.replicate (width - ds.length) '0' ++ ds

/-- An offset as hours and minutes, with seconds and microseconds where they are not zero. -/
def offsetChars (offset : Int) : List Char :=
  let n := offset.natAbs
  let micros := n % 1000000
  let seconds := n / 1000000 % 60
  let minutes := n / 60000000 % 60
  (if offset < 0 then '-' else '+') :: padded 2 (n / 3600000000) ++ ':' :: padded 2 minutes ++
    (if seconds = 0 ∧ micros = 0 then [] else ':' :: padded 2 seconds) ++
    (if micros = 0 then [] else '.' :: padded 6 micros)

def chars (m : Moment) : List Char :=
  padded 4 m.year ++ '-' :: padded 2 m.month ++ '-' :: padded 2 m.day ++
    'T' :: padded 2 m.hour ++ ':' :: padded 2 m.minute ++ ':' :: padded 2 m.second ++
    '.' :: padded 3 (m.microsecond / 1000) ++ (m.offset.map offsetChars).getD []

def dashed (c : Char) : Char := if c == ':' || c == '.' then '-' else c

/-- The offset of universal time itself is written as one letter. -/
def withZulu : List Char → List Char
  | '+' :: '0' :: '0' :: '-' :: '0' :: '0' :: cs => 'Z' :: withZulu cs
  | c :: cs => c :: withZulu cs
  | [] => []

def stamp (m : Moment) : List Char := withZulu (m.chars.map dashed)

def fileName (m : Moment) (before after : String) : String :=
  before ++ "_" ++ String.ofList m.stamp ++ after

end Moment

end DeckPress
