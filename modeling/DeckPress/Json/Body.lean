import DeckPress.Json.Machine
import DeckPress.Json.Quotation
import DeckPress.Number.Numeral

/-!
# JSON text of response bodies

The dialect in which the body of a service's response is read. Faults are told with line, column
and place, all counted in characters. The words for infinity and for no number are admitted.
-/
namespace DeckPress.Json.Body

open Number Text

/-- Integers of more digits are refused. -/
def digitLimit : Nat := 4300

def tooManyDigits (n : Nat) : String :=
  "Exceeds the limit (" ++ toString digitLimit ++
    " digits) for integer string conversion: value has " ++ toString n ++
    " digits; use sys.set_int_max_str_digits() to increase the limit"

/-- A point and one or more digits at the beginning; anything else is no part of the number. -/
def fractionDigits : List Char → List Char
  | '.' :: cs => cs.takeWhile isPlainDigit
  | _ => []

def power : List Char → Option (Int × Nat)
  | [] => none
  | c :: cs =>
    if c == 'e' || c == 'E' then
      let (negative, rest) := Numeral.signed cs
      match rest.takeWhile isPlainDigit with
      | [] => none
      | ds =>
        let v : Int := digitsValue ds
        some (if negative then -v else v, 1 + (cs.length - rest.length) + ds.length)
    else none

def wholeDigits (cs : List Char) : List Char :=
  match cs.takeWhile isPlainDigit with
  | '0' :: _ => ['0']
  | ds => ds

def lexNumber (cs : List Char) : Lexeme :=
  let (negative, body) := Numeral.signed cs
  let whole := wholeDigits body
  if whole.isEmpty then ⟨.stray, 1⟩
  else
    let rest := body.drop whole.length
    let fraction := fractionDigits rest
    let point := if fraction.isEmpty then 0 else 1
    let tail := rest.drop (point + fraction.length)
    let size := (cs.length - body.length) + whole.length + point + fraction.length
    match fraction, power tail with
    | [], none =>
      let v : Int := digitsValue whole
      if digitLimit < whole.length then ⟨.broken false (tooManyDigits whole.length) none, 1⟩
      else ⟨.value (.int (if negative then -v else v)), size⟩
    | ds, p =>
      let (e, n) := p.getD (0, 0)
      let v := Numeral.finite negative (digitsValue (whole ++ ds)) (e - ds.length)
      ⟨.value (.float v.toFloat), size + n⟩

def quotationFault : Quotation.Fault → String × Nat
  | .unterminated => ("Unterminated string starting at", 0)
  | .dangling _ => ("Unterminated string starting at", 0)
  | .control n => ("Invalid control character at", n + 1)
  | .letter n => ("Invalid \\escape", n)
  | .digit unit _ => ("Invalid \\uXXXX escape", unit + 1)
  | .cut unit => ("Invalid \\uXXXX escape", unit + 1)
  | .half n => ("Invalid \\uXXXX escape", n + 1)
  | .unpaired n => ("Invalid \\uXXXX escape", n + 1)

def lexString (cs : List Char) : Lexeme :=
  match Quotation.read true cs with
  | .ok (s, size) => ⟨.text (String.ofList s), size + 1⟩
  | .error f =>
    let (message, offset) := quotationFault f
    ⟨.broken true message (some offset), 1⟩

def words : List (String × Json) :=
  [("true", .bool true), ("false", .bool false), ("null", .null), ("NaN", .float (0 / 0)),
    ("Infinity", .float (1 / 0)), ("-Infinity", .float (-1 / 0))]

def lex : List Char → Lexeme
  | [] => ⟨.finish, 0⟩
  | c :: cs =>
    match mark? c with
    | some t => ⟨t, 1⟩
    | none =>
      if c == '"' then lexString cs
      else
        match words.find? fun w => w.1.toList.isPrefixOf (c :: cs) with
        | some (w, v) => ⟨.value v, w.length⟩
        | none => if c == '+' then ⟨.stray, 1⟩ else lexNumber (c :: cs)

def wording : Want → Bool → Token → String
  | .value, _, _ => "Expecting value"
  | .firstItem, _, _ => "Expecting value"
  | .nextItem, _, _ => "Expecting value"
  | .firstKey, _, _ => "Expecting property name enclosed in double quotes"
  | .nextKey, _, _ => "Expecting property name enclosed in double quotes"
  | .colon, _, _ => "Expecting ':' delimiter"
  | .closing, _, _ => "Expecting ',' delimiter"
  | .nothing _, _, _ => "Extra data"

/-- As many arrays and objects may be within each other. -/
def depthLimit : Nat := 985

def isTooDeep (depth : Nat) (want : Want) (t : Token) : Bool :=
  match want, t with
  | .value, .openItems | .value, .openEntries => depthLimit ≤ depth
  | .firstItem, .openItems | .firstItem, .openEntries => depthLimit ≤ depth
  | .nextItem, .openItems | .nextItem, .openEntries => depthLimit ≤ depth
  | _, _ => false

def dialect : Dialect := ⟨lex, wording, isTooDeep⟩

inductive Refusal
  | malformed (message : String)
  | tooDeep
deriving Repr, DecidableEq

def located (cs : List Char) (message : String) (place : Nat) : String :=
  let before := cs.take place
  let line := before.count '\n' + 1
  let column := (before.reverse.takeWhile (· != '\n')).length + 1
  message ++ ": line " ++ toString line ++ " column " ++ toString column ++
    " (char " ++ toString place ++ ")"

def report (cs : List Char) : Fault → Refusal
  | .wrong message none => .malformed message
  | .wrong message (some place) => .malformed (located cs message place)
  | .tooDeep _ => .tooDeep

def markMessage : String := "Unexpected UTF-8 BOM (decode using utf-8-sig)"

def read (s : String) : Except Refusal Json :=
  let cs := s.toList
  if cs.head? == some '\uFEFF' then .error (.malformed (located cs markMessage 0))
  else (readWith dialect cs).mapError (report cs)

end DeckPress.Json.Body
