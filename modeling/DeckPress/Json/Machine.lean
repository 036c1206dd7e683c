import DeckPress.Json

/-!
# Reading JSON text

A text is cut into tokens, and a machine with a stack of open arrays and objects takes one token
after the other. Readers of one grammar differ in their tokens and in their words for what is
wrong; both are given by a `Dialect`.
-/
namespace DeckPress.Json

inductive Token
  | openItems
  | closeItems
  | openEntries
  | closeEntries
  | comma
  | colon
  | text (s : String)
  | value (v : Json)
  /-- A token that went wrong: whether it began with a quote, what to say, and how far from its
  beginning; without a place the message stands alone. -/
  | broken (quoted : Bool) (message : String) (offset : Option Nat)
  | stray
  | finish

structure Lexeme where
  token : Token
  size : Nat

structure Placed where
  token : Token
  place : Nat

inductive Fault
  /-- Told in the words of the dialect; without a place the words stand alone. -/
  | wrong (message : String) (place : Option Nat)
  | tooDeep (place : Nat)
deriving Repr, DecidableEq

inductive Want
  | value
  | firstItem
  | nextItem
  | firstKey
  | nextKey
  | colon
  | closing
  | nothing (v : Json)

/-- An open array or object; the items of an array in reverse. -/
inductive Frame
  | items (done : List Json)
  | entries (done : Entries)
  | member (done : Entries) (key : String)

structure Machine where
  want : Want
  stack : List Frame

structure Dialect where
  lex : List Char → Lexeme
  /-- The words for a token that is not wanted; whether the innermost frame is an object. -/
  wording : Want → (inObject : Bool) → Token → String
  /-- So many arrays and objects are open, and this token is one too many among them. -/
  isTooDeep : Nat → Want → Token → Bool

def isGap (c : Char) : Bool := c == ' ' || c == '\t' || c == '\n' || c == '\r'

/-- The tokens of a text of `left` characters that begins at `place`. -/
def tokens (lex : List Char → Lexeme) (left place : Nat) (cs : List Char) : List Placed :=
  match left, cs with
  | 0, _ => [⟨.finish, place⟩]
  | _, [] => [⟨.finish, place⟩]
  | left + 1, c :: cs =>
    if isGap c then tokens lex left (place + 1) cs
    else
      let l := lex (c :: cs)
      let more := l.size - 1
      match l.token with
      | .broken .. => [⟨l.token, place⟩]
      | .stray => [⟨l.token, place⟩]
      | t => ⟨t, place⟩ :: tokens lex (left - more) (place + 1 + more) (cs.drop more)
termination_by left
decreasing_by all_goals omega

namespace Machine

def inObject : List Frame → Bool
  | .entries _ :: _ => true
  | .member .. :: _ => true
  | _ => false

def complete (v : Json) : List Frame → Machine
  | [] => ⟨.nothing v, []⟩
  | .items done :: stack => ⟨.closing, .items (v :: done) :: stack⟩
  | .member done key :: stack => ⟨.closing, .entries (done.put key v) :: stack⟩
  | .entries done :: stack => ⟨.closing, .entries done :: stack⟩

def unwanted (d : Dialect) (m : Machine) (t : Placed) : Except Fault Machine :=
  .error (.wrong (d.wording m.want (inObject m.stack) t.token) (some t.place))

def broken (message : String) (place : Nat) (offset : Option Nat) : Except Fault Machine :=
  .error (.wrong message (offset.map (place + ·)))

def takeValue (d : Dialect) (m : Machine) (t : Placed) : Except Fault Machine :=
  match t.token with
  | .text s => .ok (complete (.str s) m.stack)
  | .value v => .ok (complete v m.stack)
  | .openItems => .ok ⟨.firstItem, .items [] :: m.stack⟩
  | .openEntries => .ok ⟨.firstKey, .entries [] :: m.stack⟩
  | .broken _ message offset => broken message t.place offset
  | _ => unwanted d m t

def takeKey (d : Dialect) (m : Machine) (t : Placed) : Except Fault Machine :=
  match t.token, m.stack with
  | .text s, .entries done :: stack => .ok ⟨.colon, .member done s :: stack⟩
  | .broken true message offset, _ => broken message t.place offset
  | _, _ => unwanted d m t

def close (d : Dialect) (m : Machine) (t : Placed) : Except Fault Machine :=
  match t.token, m.stack with
  | .closeItems, .items done :: stack => .ok (complete (.arr done.reverse) stack)
  | .closeEntries, .entries done :: stack => .ok (complete (.obj done) stack)
  | _, _ => unwanted d m t

def take (d : Dialect) (m : Machine) (t : Placed) : Except Fault Machine :=
  match m.want, t.token with
  | .value, _ => takeValue d m t
  | .firstItem, .closeItems => close d m t
  | .firstItem, _ => takeValue d m t
  | .nextItem, _ => takeValue d m t
  | .firstKey, .closeEntries => close d m t
  | .firstKey, _ => takeKey d m t
  | .nextKey, _ => takeKey d m t
  | .colon, .colon => .ok ⟨.value, m.stack⟩
  | .colon, _ => unwanted d m t
  | .closing, .comma => .ok ⟨if inObject m.stack then .nextKey else .nextItem, m.stack⟩
  | .closing, _ => close d m t
  | .nothing _, .finish => .ok m
  | .nothing _, _ => unwanted d m t

def step (d : Dialect) (m : Machine) (t : Placed) : Except Fault Machine :=
  if d.isTooDeep m.stack.length m.want t.token then .error (.tooDeep t.place) else take d m t

end Machine

/-- The value that a text writes in a dialect, or the first thing that is wrong with it. -/
def readWith (d : Dialect) (cs : List Char) : Except Fault Json := do
  let m ← (tokens d.lex cs.length 0 cs).foldlM (Machine.step d) ⟨.value, []⟩
  match m.want with
  | .nothing v => .ok v
  | _ => .error (.wrong "" none)

def mark? : Char → Option Token
  | '[' => some .openItems
  | ']' => some .closeItems
  | '\x7b' => some .openEntries
  | '\x7d' => some .closeEntries
  | ',' => some .comma
  | ':' => some .colon
  | _ => none

end DeckPress.Json
