import DeckPress.Picture.Tags

/-!
# Several photographs in one file

The first photograph brings an index: tags that tell how many there are, with an entry for each. An
index that nobody can read counts for nothing, but one whose entries end too early spoils the file.
-/
namespace DeckPress.Picture.PhotoIndex

def countTag : Nat := 0xB001

def entriesTag : Nat := 0xB002

def entrySize : Nat := 16

/-- The first number of an entry tells the kind of its photograph, of which only one is known. -/
def isKnownKind (number : Nat) : Bool := number / 0x1000000 % 8 = 0

def areKnown (number : Bytes → Nat) : Nat → Bytes → Except Fault Bool
  | 0, _ => .ok true
  | left + 1, bs => do
    let entry ← part bs 0 entrySize
    if isKnownKind (number (entry.take 4)) then areKnown number left (bs.drop entrySize)
    else return false

/-- The numbers in entries have their last byte most significant, except after the usual mark of
the other order. -/
def entryNumber (index : Bytes) : Bytes → Nat :=
  if ([0x4D, 0x4D, 0, 0x2A] : Bytes).isPrefixOf index then big else little

def hasSeveral (index : Bytes) : Except Fault Bool := do
  match Tags.first index with
  | .error _ => return false
  | .ok (style, tags) =>
    match ((tags.lookup countTag).bind (·.wholes? style)).bind (·.head?), tags.lookup entriesTag with
    | some count, some entries =>
      if entries.isBytes then
        return (← areKnown (entryNumber index) count.toNat entries.data) && 1 < count
      else return false
    | _, _ => return false

end DeckPress.Picture.PhotoIndex
