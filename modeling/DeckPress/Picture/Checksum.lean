import DeckPress.Picture.Bytes

/-!
# Checksums

The cyclic redundancy check of chunks and the sums that end compressed data.
-/
namespace DeckPress.Picture.Checksum

def crcStep (crc : UInt32) : UInt32 :=
  if crc &&& 1 == 1 then (crc >>> 1) ^^^ 0xEDB88320 else crc >>> 1

def crcByte (crc : UInt32) (b : UInt8) : UInt32 := Nat.repeat crcStep 8 (crc ^^^ b.toUInt32)

def crc (bs : Bytes) : Nat :=
  ((bs.foldl crcByte (0xFFFFFFFF : UInt32)) ^^^ 0xFFFFFFFF).toNat

/-- The largest prime below two to the power of 16. -/
def modulus : Nat := 65521

def sums (bs : Array UInt8) : Nat × Nat :=
  bs.foldl (fun (a, b) c =>
    let a := (a + c.toNat) % modulus
    (a, (b + a) % modulus)) (1, 0)

def adler (bs : Array UInt8) : Nat :=
  let (a, b) := sums bs
  0x10000 * b + a

end DeckPress.Picture.Checksum
