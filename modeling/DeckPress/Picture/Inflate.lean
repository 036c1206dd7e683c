import DeckPress.Picture.Checksum

/-!
# Compressed data

Undoes the compression of texts and profiles within a picture. Data that break off count as far
as they go; data that contradict themselves are corrupt, and data that grow beyond a limit are
given up unless every byte of them has been looked at.
-/
namespace DeckPress.Picture.Inflate

inductive Stop
  | ended
  | corrupt
  | full
deriving Repr, DecidableEq

structure State where
  /-- The bits that are left of the byte at hand, the next one first. -/
  ahead : List Bool
  rest : Bytes
  written : Array UInt8
  limit : Nat

/-- Decompression: when it stops, what has been written stays. -/
abbrev Run := ExceptT Stop (StateM State)

def bitsOf (left n : Nat) : List Bool :=
  match left with
  | 0 => []
  | left + 1 => (n % 2 == 1) :: bitsOf left (n / 2)

def nextByte : Run (List Bool) := do
  let s ← get
  match s.rest with
  | [] => throw .ended
  | b :: bs =>
    set { s with rest := bs }
    return bitsOf 8 b.toNat

def bit : Run Nat := do
  let s ← get
  let bits ← if s.ahead.isEmpty then nextByte else pure s.ahead
  modify fun s => { s with ahead := bits.drop 1 }
  return if bits.headD false then 1 else 0

/-- A number of so many bits, the lowest one first. -/
def number : Nat → Run Nat
  | 0 => return 0
  | n + 1 => do
    let low ← bit
    let high ← number n
    return low + 2 * high

def align : Run Unit := modify fun s => { s with ahead := [] }

def makeRoom : Run Unit := do
  let s ← get
  if s.limit ≤ s.written.size then throw .full

def write (b : UInt8) : Run Unit := do
  makeRoom
  modify fun s => { s with written := s.written.push b }

/-- The symbols of a prefix code by the lengths of their codewords, from one bit to the longest. -/
abbrev Code := List (Array Nat)

/-- The code in which the symbols have codewords of the given lengths; length zero means that a
symbol has none. -/
def codeOf (lengths : List Nat) : Code :=
  (List.range (max 1 (lengths.foldl max 0))).map fun n =>
    ((lengths.zipIdx.filter fun (l, _) => l == n + 1).map (·.2)).toArray

/-- The codewords of the longest length that are left over, or nothing if there are too many
codewords. -/
def spare? (left : Nat) : Code → Option Nat
  | [] => some left
  | symbols :: longer =>
    if 2 * left < symbols.size then none else spare? (2 * left - symbols.size) longer

def isComplete (c : Code) : Bool := spare? 1 c == some 0

def isUsable (c : Code) : Bool := isComplete c || (c.length ≤ 1 && (spare? 1 c).isSome)

/-- A code for code lengths that has no symbols: every bit stands for length zero. -/
def zeroCode : Code := [#[0, 0]]

def isVoid (c : Code) : Bool := c.all (·.isEmpty)

/-- Reads a codeword. `first` is the least codeword of the length at hand. -/
def symbolFrom (first word : Nat) : Code → Run Nat
  | [] => throw .corrupt
  | symbols :: longer => do
    let word := word + (← bit)
    match symbols[word - first]? with
    | some n => return n
    | none => symbolFrom (2 * (first + symbols.size)) (2 * word) longer

def symbol (c : Code) : Run Nat := symbolFrom 0 0 c

/-- The least length of each length symbol, and how many bits are added to it. -/
def lengths : List (Nat × Nat) :=
  [(3, 0), (4, 0), (5, 0), (6, 0), (7, 0), (8, 0), (9, 0), (10, 0), (11, 1), (13, 1), (15, 1),
    (17, 1), (19, 2), (23, 2), (27, 2), (31, 2), (35, 3), (43, 3), (51, 3), (59, 3), (67, 4),
    (83, 4), (99, 4), (115, 4), (131, 5), (163, 5), (195, 5), (227, 5), (258, 0)]

def distances : List (Nat × Nat) :=
  [(1, 0), (2, 0), (3, 0), (4, 0), (5, 1), (7, 1), (9, 2), (13, 2), (17, 3), (25, 3), (33, 4),
    (49, 4), (65, 5), (97, 5), (129, 6), (193, 6), (257, 7), (385, 7), (513, 8), (769, 8),
    (1025, 9), (1537, 9), (2049, 10), (3073, 10), (4097, 11), (6145, 11), (8193, 12),
    (12289, 12), (16385, 13), (24577, 13)]

def amount (table : List (Nat × Nat)) (n : Nat) : Run Nat :=
  match table[n]? with
  | none => throw .corrupt
  | some (least, extra) => return least + (← number extra)

def copy (distance : Nat) : Nat → Run Unit
  | 0 => return
  | n + 1 => do
    let s ← get
    match s.written[s.written.size - distance]? with
    | some b => write b
    | none => throw .corrupt
    copy distance n

def writtenSize : Run Nat := return (← get).written.size

/-- Symbols up to the end of a block. Each of them takes at least one bit. -/
def symbols (literal distance : Code) : Nat → Run Unit
  | 0 => throw .ended
  | left + 1 => do
    let n ← symbol literal
    if n < 256 then
      write n.toUInt8
      symbols literal distance left
    else if n = 256 then return
    else
      let length ← amount lengths (n - 257)
      let far ← amount distances (← symbol distance)
      makeRoom
      if (← writtenSize) < far then throw .corrupt
      copy far length
      symbols literal distance left

def fixedLiterals : Code :=
  codeOf (List.replicate 144 8 ++ List.replicate 112 9 ++ List.replicate 24 7 ++ List.replicate 8 8)

def fixedDistances : Code := codeOf (List.replicate 32 5)

def storedBlock : Run Unit := do
  align
  let size ← number 16
  let check ← number 16
  if size + check ≠ 0xFFFF then throw .corrupt
  for _ in List.range size do
    makeRoom
    write (← number 8).toUInt8

def lengthOrder : List Nat := [16, 17, 18, 0, 8, 7, 9, 6, 10, 5, 11, 4, 12, 3, 13, 2, 14, 1, 15]

def codeLengths (c : Code) (count : Nat) : Nat → List Nat → Run (List Nat)
  | 0, _ => throw .ended
  | left + 1, done => do
    if count ≤ done.length then return done.reverse
    let n ← symbol c
    let (value, times) ←
      if n < 16 then pure (n, 1)
      else if n = 16 then
        let more ← number 2
        match done with
        | [] => throw .corrupt
        | l :: _ => pure (l, 3 + more)
      else if n = 17 then pure (0, 3 + (← number 3))
      else pure (0, 11 + (← number 7))
    if count < done.length + times then throw .corrupt
    codeLengths c count left (List.replicate times value ++ done)

def dynamicBlock (left : Nat) : Run Unit := do
  let literals := (← number 5) + 257
  let far := (← number 5) + 1
  let given := (← number 4) + 4
  if 286 < literals ∨ 30 < far then throw .corrupt
  let sizes ← (lengthOrder.take given).mapM fun n => return (n, ← number 3)
  let c := codeOf ((List.range 19).map fun n => (sizes.lookup n).getD 0)
  if !isComplete c && !isVoid c then throw .corrupt
  let ls ← codeLengths (if isVoid c then zeroCode else c) (literals + far) (literals + far + 1) []
  let literal := codeOf (ls.take literals)
  let distance := codeOf (ls.drop literals)
  if ls.getD 256 0 = 0 then throw .corrupt
  if !isUsable literal || !isUsable distance then throw .corrupt
  symbols literal distance left

def blocks (bits : Nat) : Nat → Run Unit
  | 0 => throw .ended
  | left + 1 => do
    let last ← bit
    match ← number 2 with
    | 0 => storedBlock
    | 1 => symbols fixedLiterals fixedDistances bits
    | 2 => dynamicBlock bits
    | _ => throw .corrupt
    if last = 0 then blocks bits left

/-- Two bytes about the method, the blocks, and the checksum of what they hold. -/
def stream (bits : Nat) : Run Unit := do
  let method ← number 8
  let flags ← number 8
  if (256 * method + flags) % 31 ≠ 0 ∨ method % 16 ≠ 8 ∨ 7 < method / 16 then throw .corrupt
  if flags / 32 % 2 = 1 then
    let _ ← number 32
    throw .corrupt
  blocks bits bits
  align
  let check ← (List.range 4).mapM fun _ => number 8
  if check.foldl (fun n b => 256 * n + b) 0 ≠ Checksum.adler (← get).written then throw .corrupt

def run (limit : Nat) (bs : Bytes) : Except Stop Unit × State :=
  (stream (8 * bs.length + 1)).run.run ⟨[], bs, #[], limit⟩

def read (limit : Nat) (bs : Bytes) : Except Stop Bytes :=
  match run limit bs with
  | (.ok (), s) => .ok s.written.toList
  | (.error .ended, s) => .ok s.written.toList
  | (.error .full, s) => if s.rest.isEmpty then .ok s.written.toList else .error .full
  | (.error .corrupt, _) => .error .corrupt

def holds (size : Nat) (bs : Bytes) : Bool := size ≤ (run size bs).2.written.size

end DeckPress.Picture.Inflate
