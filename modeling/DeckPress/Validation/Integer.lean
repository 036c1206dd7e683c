import DeckPress.Validation
import DeckPress.Number.Numeral

/-!
# Texts that spell integers

Around an integer there may be white space, and in it a plus sign, leading zeros, single
underscores and a fraction of zeros. What is left without them has to be digits after at most one
minus sign, and not too many of them.
-/
namespace DeckPress.Validation

open Number Text

def integerLimit : Nat := 4300

def minus : List Char → Bool × List Char
  | '-' :: cs => (true, cs)
  | cs => (false, cs)

/-- A text that begins with more digits than are read, the first of them not zero, is refused for
its size, whatever follows. -/
def isOversized (cs : List Char) : Bool :=
  let ds := (minus cs).2.takeWhile isPlainDigit
  ds.head? != some '0' && integerLimit < ds.length

/-- Digits without leading zeros after an optional minus sign. -/
def plainInteger? (cs : List Char) : Option Int :=
  let (negative, ds) := minus cs
  if ds.isEmpty || !ds.all isPlainDigit || (ds.head? == some '0' && 1 < ds.length) ||
      integerLimit < ds.length then none
  else
    let n : Int := digitsValue ds
    some (if negative then -n else n)

def isLeading (c : Char) : Bool := c == '-' || (isPlainDigit c && c != '0')

/-- Zeros in front of a number are dropped, with underscores among them; the last of them stays
if nothing or a point follows. -/
def withoutLeadingZeros? : List Char → Option (List Char)
  | [] => none
  | c :: cs =>
    if c == '0' then
      let (zeros, rest) := cs.span fun d => d == '0' || d == '_'
      match rest with
      | [] => some [zeros.getLastD '0']
      | d :: _ =>
        if d == '.' then some (zeros.getLastD '0' :: rest)
        else if isLeading d then some rest
        else none
    else if isLeading c then some (c :: cs)
    else none

/-- A point with nothing but zeros after it, at least one, is dropped with them. -/
def withoutZeroFraction (cs : List Char) : List Char :=
  let (whole, rest) := cs.span (· != '.')
  match rest with
  | '.' :: ds => if !ds.isEmpty && ds.all (· == '0') then whole else cs
  | _ => cs

def withoutUnderscores (cs : List Char) : List Char :=
  if cs.head? == some '_' || cs.getLast? == some '_' || (cs.zip (cs.drop 1)).contains ('_', '_')
  then cs
  else cs.filter (· != '_')

/-- A plus sign is dropped; no minus sign may follow it. -/
def withoutPlus : List Char → List Char
  | '+' :: '-' :: _ => []
  | '+' :: cs => cs
  | cs => cs

def canonical? (cs : List Char) : Option (List Char) := do
  let (negative, ds) := minus (withoutPlus (trimBy isWhiteSpace cs))
  let ds := withoutUnderscores (withoutZeroFraction (← withoutLeadingZeros? ds))
  return if negative then '-' :: ds else ds

def integerText (s : String) : Checked Int :=
  if isOversized s.toList then .fail .oversized
  else
    match (canonical? s.toList).bind plainInteger? with
    | some n => .valid n
    | none => .fail .unreadableInteger

end DeckPress.Validation
