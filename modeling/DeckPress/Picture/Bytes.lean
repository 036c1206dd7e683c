import DeckPress.Picture

/-!
# Bytes of a picture

Numbers and parts of a file by their places.
-/
namespace DeckPress.Picture

abbrev Bytes := List UInt8

/-- The number of some bytes, the last one most significant. -/
def little : Bytes → Nat
  | [] => 0
  | b :: bs => b.toNat + 256 * little bs

/-- The number of some bytes, the first one most significant. -/
def big (bs : Bytes) : Nat := bs.foldl (fun n b => 256 * n + b.toNat) 0

def part? (bs : Bytes) (start size : Nat) : Option Bytes :=
  let p := (bs.drop start).take size
  if p.length = size then some p else none

/-- What has to be there for a picture to be known. -/
def required {α : Type} : Option α → Except Fault α
  | some a => .ok a
  | none => .error .unknown

/-- What has to be there for a known picture to be whole. -/
def present {α : Type} : Option α → Except Fault α
  | some a => .ok a
  | none => .error .unreadable

def expect (b : Bool) : Except Fault Unit := if b then .ok () else .error .unknown

def part (bs : Bytes) (start size : Nat) : Except Fault Bytes := required (part? bs start size)

def littleAt (bs : Bytes) (start size : Nat) : Except Fault Nat :=
  return little (← part bs start size)

def bigAt (bs : Bytes) (start size : Nat) : Except Fault Nat :=
  return big (← part bs start size)

def byteAt (bs : Bytes) (place : Nat) : Except Fault Nat :=
  return (← required bs[place]?).toNat

/-- The number of so many bytes, when its upper half stands for negative ones. -/
def signed (size n : Nat) : Int :=
  let half := Nat.pow 2 (8 * size - 1)
  if n < half then n else (n : Int) - 2 * half

def signedLittleAt (bs : Bytes) (start size : Nat) : Except Fault Int :=
  return signed size (← littleAt bs start size)

def signedBigAt (bs : Bytes) (start size : Nat) : Except Fault Int :=
  return signed size (← bigAt bs start size)

def ascii (s : String) : Bytes := s.toList.map fun c => c.toNat.toUInt8

def begins (bs : Bytes) (s : String) : Bool := (ascii s).isPrefixOf bs

def occurs (inner : Bytes) : Bytes → Bool
  | [] => inner.isEmpty
  | b :: bs => inner.isPrefixOf (b :: bs) || occurs inner bs

def splitZero? : Bytes → Option (Bytes × Bytes)
  | [] => none
  | b :: bs => if b = 0 then some ([], bs) else (splitZero? bs).map fun (l, r) => (b :: l, r)

end DeckPress.Picture
