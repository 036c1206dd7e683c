import DeckPress.Json.Machine
import DeckPress.Json.Quotation
import DeckPress.Number.Numeral

/-!
# JSON text of replies

The dialect in which the text of a model's reply is read. Faults are told with their line and
with their column in bytes. The words for infinity and for no number are admitted, and numbers
beyond all doubles are infinite.
-/
namespace DeckPress.Json.Reply

open Number Text

def endsInValue : String := "EOF while parsing a value"

/-- The rest of a word: how much of it is there, and whether the text ends within it. -/
def wordLength : List Char → List Char → Nat → Except (String × Nat) Nat
  | [], _, n => .ok n
  | _ :: _, [], n => .error (endsInValue, n)
  | w :: ws, c :: cs, n =>
    if c == w then wordLength ws cs (n + 1) else .error ("expected ident", n)

def lexWord (word : String) (v : Json) (cs : List Char) : Except (String × Nat) (Json × Nat) := do
  let n ← wordLength (word.toList.drop 1) (cs.drop 1) 1
  .ok (v, n)

def someDigits (cs : List Char) (offset : Nat) : Except (String × Nat) (List Char) :=
  match cs.takeWhile isPlainDigit, cs with
  | [], [] => .error (endsInValue, offset)
  | [], _ => .error ("invalid number", offset)
  | ds, _ => .ok ds

def lexFraction (cs : List Char) (offset : Nat) :
    Except (String × Nat) (Option (List Char) × Nat) :=
  match cs with
  | '.' :: cs => do
    let ds ← someDigits cs (offset + 1)
    .ok (some ds, ds.length + 1)
  | _ => .ok (none, 0)

def lexPower (cs : List Char) (offset : Nat) : Except (String × Nat) (Option Int × Nat) :=
  match cs with
  | c :: cs =>
    if c == 'e' || c == 'E' then do
      let (negative, rest) := Numeral.signed cs
      let sign := cs.length - rest.length
      let ds ← someDigits rest (offset + 1 + sign)
      let power : Int := digitsValue ds
      .ok (some (if negative then -power else power), ds.length + 1 + sign)
    else .ok (none, 0)
  | [] => .ok (none, 0)

def integerLimit : Nat := 4300

def lexNumber (cs : List Char) : Except (String × Nat) (Json × Nat) := do
  let (negative, body) := Numeral.signed cs
  let start := if negative then 1 else 0
  if negative && body.head? == some 'I' then
    let n ← wordLength "nfinity".toList (body.drop 1) 2
    return (.float (-1 / 0), n)
  let whole ← someDigits body start
  if whole.head? == some '0' && 1 < whole.length then .error ("invalid number", start + 1)
  if integerLimit < whole.length then .error ("number out of range", start + integerLimit + 1)
  let offset := start + whole.length
  let rest := body.drop whole.length
  let (fraction, m) ← lexFraction rest offset
  let (power, n) ← lexPower (rest.drop m) (offset + m)
  let size := offset + m + n
  match fraction, power with
  | none, none =>
    let v : Int := digitsValue whole
    return (.int (if negative then -v else v), size)
  | _, _ =>
    let ds := fraction.getD []
    let v := Numeral.finite negative (digitsValue (whole ++ ds)) (power.getD 0 - ds.length)
    return (.float v.toFloat, size)

def lexed (r : Except (String × Nat) (Json × Nat)) : Lexeme :=
  match r with
  | .ok (v, size) => ⟨.value v, size⟩
  | .error (message, offset) => ⟨.broken false message (some offset), 1⟩

def byteCount (cs : List Char) : Nat := cs.foldl (fun n c => n + c.utf8Size) 0

def endsInString : String := "EOF while parsing a string"

/-- The words for a fault in the string that begins with the given characters, its opening quote
not counted. A numbered escape needs four bytes before they are looked at. -/
def quotationFault (cs : List Char) : Quotation.Fault → String × Nat
  | .unterminated => (endsInString, cs.length + 1)
  | .cut _ => (endsInString, cs.length + 1)
  | .dangling _ => (endsInString, cs.length + 1)
  | .control n => ("control character (\\u0000-\\u001F) found while parsing a string", n + 1)
  | .letter n => ("invalid escape", n + 1)
  | .digit unit n =>
    if byteCount (cs.drop (unit + 1)) < 4 then (endsInString, cs.length + 1)
    else ("invalid escape", n + 1)
  | .half n => ("lone leading surrogate in hex escape", n + 1)
  | .unpaired n => ("unexpected end of hex escape", n + 1)

def lexString (cs : List Char) : Lexeme :=
  match Quotation.read false cs with
  | .ok (s, size) => ⟨.text (String.ofList s), size + 1⟩
  | .error f =>
    let (message, offset) := quotationFault cs f
    ⟨.broken true message (some offset), 1⟩

def lex : List Char → Lexeme
  | [] => ⟨.finish, 0⟩
  | c :: cs =>
    match mark? c with
    | some t => ⟨t, 1⟩
    | none =>
      if c == '"' then lexString cs
      else if c == 't' then lexed (lexWord "true" (.bool true) (c :: cs))
      else if c == 'f' then lexed (lexWord "false" (.bool false) (c :: cs))
      else if c == 'n' then lexed (lexWord "null" .null (c :: cs))
      else if c == 'N' then lexed (lexWord "NaN" (.float (0 / 0)) (c :: cs))
      else if c == 'I' then lexed (lexWord "Infinity" (.float (1 / 0)) (c :: cs))
      else if c == '-' || isPlainDigit c then lexed (lexNumber (c :: cs))
      else ⟨.stray, 1⟩

def wording : Want → Bool → Token → String
  | .value, _, .finish => endsInValue
  | .value, _, _ => "expected value"
  | .firstItem, _, .finish => "EOF while parsing a list"
  | .firstItem, _, _ => "expected value"
  | .nextItem, _, .finish => endsInValue
  | .nextItem, _, .closeItems => "trailing comma"
  | .nextItem, _, _ => "expected value"
  | .firstKey, _, .finish => "EOF while parsing an object"
  | .firstKey, _, _ => "key must be a string"
  | .nextKey, _, .finish => endsInValue
  | .nextKey, _, .closeEntries => "trailing comma"
  | .nextKey, _, _ => "key must be a string"
  | .colon, _, .finish => "EOF while parsing an object"
  | .colon, _, _ => "expected `:`"
  | .closing, false, .finish => "EOF while parsing a list"
  | .closing, true, .finish => "EOF while parsing an object"
  | .closing, false, _ => "expected `,` or `]`"
  | .closing, true, _ => "expected `,` or `\x7d`"
  | .nothing _, _, _ => "trailing characters"

/-- As many arrays and objects may be open at once; one more may only be empty. -/
def depthLimit : Nat := 200

/-- Nothing stands as a value inside too many arrays and objects. The end of the text is told as
such. -/
def isTooDeep (depth : Nat) : Want → Token → Bool
  | .value, .finish => false
  | .value, _ => depthLimit < depth
  | .firstItem, .finish => false
  | .firstItem, .closeItems => false
  | .firstItem, _ => depthLimit < depth
  | _, _ => false

def dialect : Dialect := ⟨lex, wording, isTooDeep⟩

/-- The line and the column of a place. A line end belongs to the line after it, at column 0;
the end of the text has the column of the last byte. -/
def position (cs : List Char) (place : Nat) : Nat × Nat :=
  let before := cs.take place
  let line := before.count '\n' + 1
  let column := byteCount (before.reverse.takeWhile (· != '\n'))
  match cs[place]? with
  | none => (line, column)
  | some c => if c == '\n' then (line + 1, 0) else (line, column + 1)

def located (cs : List Char) (message : String) (place : Nat) : String :=
  let (line, column) := position cs place
  message ++ " at line " ++ toString line ++ " column " ++ toString column

def report (cs : List Char) : Fault → String
  | .wrong message none => message
  | .wrong message (some place) => located cs message place
  | .tooDeep place => located cs "recursion limit exceeded" place

def read (s : String) : Except String Json :=
  (readWith dialect s.toList).mapError (report s.toList)

end DeckPress.Json.Reply
