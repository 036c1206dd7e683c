/-!
# Text from bytes

Reads UTF-8. Bytes that belong to no character are replaced: one replacement stands for the
longest beginning of a character that breaks off, or for a byte that begins none.
-/
namespace DeckPress.Text

def replacementChar : Char := '\uFFFD'

inductive Decoder
  | between
  /-- Within a character: its bits so far, how many bytes are to come, and the bounds of the next
  one. -/
  | within (bits left low high : Nat)

namespace Decoder

/-- The character that begins with a byte. The bounds of the second byte leave out long forms,
surrogates and what is beyond the last plane. -/
def start (b : Nat) : Decoder × List Char :=
  if b < 0x80 then (between, [Char.ofNat b])
  else if b < 0xC2 then (between, [replacementChar])
  else if b < 0xE0 then (within (b % 0x20) 1 0x80 0xBF, [])
  else if b == 0xE0 then (within 0 2 0xA0 0xBF, [])
  else if b == 0xED then (within 0xD 2 0x80 0x9F, [])
  else if b < 0xF0 then (within (b % 0x10) 2 0x80 0xBF, [])
  else if b == 0xF0 then (within 0 3 0x90 0xBF, [])
  else if b < 0xF4 then (within (b % 8) 3 0x80 0xBF, [])
  else if b == 0xF4 then (within 4 3 0x80 0x8F, [])
  else (between, [replacementChar])

def step (b : Nat) : Decoder → Decoder × List Char
  | between => start b
  | within bits left low high =>
    if low ≤ b && b ≤ high then
      let bits := 0x40 * bits + b % 0x40
      if left ≤ 1 then (between, [Char.ofNat bits]) else (within bits (left - 1) 0x80 0xBF, [])
    else
      let (next, cs) := start b
      (next, replacementChar :: cs)

def finish : Decoder → List Char
  | between => []
  | within .. => [replacementChar]

/-- Reads bytes after what has been read in reverse. -/
def run (d : Decoder) (read : List Char) : List UInt8 → List Char
  | [] => (d.finish ++ read).reverse
  | b :: bs =>
    let (next, cs) := d.step b.toNat
    next.run (cs.reverse ++ read) bs

end Decoder

def ofBytes (bs : List UInt8) : String := String.ofList (Decoder.between.run [] bs)

end DeckPress.Text
