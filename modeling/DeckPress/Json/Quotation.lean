import DeckPress.Text.Digit

/-!
# Quoted strings of JSON text

Reads a string after its opening quote, one character at a time. What two readers tell apart is
kept apart here: where a fault lies, and whether half of a surrogate pair may stand alone.
-/
namespace DeckPress.Json.Quotation

/-- What is wrong with a quoted string. Offsets count characters after the opening quote. -/
inductive Fault
  | unterminated
  /-- A control character stands for itself. -/
  | control (offset : Nat)
  | letter (offset : Nat)
  /-- Not a digit, at the offset, in the numbered escape whose letter is at `unit`. -/
  | digit (unit offset : Nat)
  /-- The text ends within a numbered escape, or right after it. -/
  | cut (unit : Nat)
  | half (offset : Nat)
  | unpaired (offset : Nat)
  /-- The text ends after the backslash that a second half has to begin with. -/
  | dangling (offset : Nat)
deriving Repr, DecidableEq

inductive Mode
  /-- Between characters. `unit` holds the letter's offset if a numbered escape has just ended. -/
  | plain (unit : Option Nat)
  | escape
  | digits (high : Option Nat) (unit count value : Nat)
  | pairSlash (high unit : Nat)
  | pairLetter (high : Nat)

inductive Step
  | more (mode : Mode) (read : List Char)
  | closed (read : List Char)
  | fault (f : Fault)

def escaped? : Char → Option Char
  | '"' => some '"'
  | '\\' => some '\\'
  | '/' => some '/'
  | 'b' => some '\x08'
  | 'f' => some '\x0c'
  | 'n' => some '\n'
  | 'r' => some '\r'
  | 't' => some '\t'
  | _ => none

def isHigh (n : Nat) : Bool := 0xD800 ≤ n && n < 0xDC00

def isLow (n : Nat) : Bool := 0xDC00 ≤ n && n < 0xE000

def replacement : Char := '\uFFFD'

def plainStep (read : List Char) (offset : Nat) (c : Char) : Step :=
  if c == '"' then .closed read
  else if c == '\\' then .more .escape read
  else if c.toNat < 0x20 then .fault (.control offset)
  else .more (.plain none) (c :: read)

def escapeStep (read : List Char) (offset : Nat) (c : Char) : Step :=
  if c == 'u' then .more (.digits none offset 0 0) read
  else
    match escaped? c with
    | some d => .more (.plain none) (d :: read)
    | none => .fault (.letter offset)

def unitStep (alone : Bool) (read : List Char) (unit offset n : Nat) : Option Nat → Step
  | none =>
    if isHigh n then .more (.pairSlash n unit) read
    else if isLow n then
      if alone then .more (.plain (some unit)) (replacement :: read) else .fault (.half offset)
    else .more (.plain (some unit)) (Char.ofNat n :: read)
  | some high =>
    if isLow n then
      let code := 0x10000 + (high - 0xD800) * 0x400 + (n - 0xDC00)
      .more (.plain (some unit)) (Char.ofNat code :: read)
    else if !alone then .fault (.half offset)
    else if isHigh n then .more (.pairSlash n unit) (replacement :: read)
    else .more (.plain (some unit)) (Char.ofNat n :: replacement :: read)

def step (alone : Bool) (read : List Char) (offset : Nat) (c : Char) : Mode → Step
  | .plain _ => plainStep read offset c
  | .escape => escapeStep read offset c
  | .digits high unit count value =>
    match Text.hexValue? c with
    | none => .fault (.digit unit offset)
    | some d =>
      let value := 16 * value + d
      if count = 3 then unitStep alone read unit offset value high
      else .more (.digits high unit (count + 1) value) read
  | .pairSlash high _ =>
    if c == '\\' then .more (.pairLetter high) read
    else if alone then plainStep (replacement :: read) offset c
    else .fault (.unpaired offset)
  | .pairLetter high =>
    if c == 'u' then .more (.digits (some high) offset 0 0) read
    else if alone then escapeStep (replacement :: read) offset c
    else .fault (.unpaired offset)

def ended (offset : Nat) : Mode → Fault
  | .plain (some unit) => .cut unit
  | .digits _ unit _ _ => .cut unit
  | .pairSlash _ unit => .cut unit
  | .pairLetter _ => .dangling offset
  | _ => .unterminated

def scan (alone : Bool) (mode : Mode) (read : List Char) (offset : Nat) :
    List Char → Except Fault (List Char × Nat)
  | [] => .error (ended offset mode)
  | c :: cs =>
    match step alone read offset c mode with
    | .more mode read => scan alone mode read (offset + 1) cs
    | .closed read => .ok (read.reverse, offset + 1)
    | .fault f => .error f

/-- The string and the number of characters that it takes, its closing quote included. With
`alone`, half of a surrogate pair may stand alone. -/
def read (alone : Bool) (cs : List Char) : Except Fault (List Char × Nat) :=
  scan alone (.plain none) [] 0 cs

end DeckPress.Json.Quotation
