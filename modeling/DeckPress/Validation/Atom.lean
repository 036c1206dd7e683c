import DeckPress.Validation.Integer
import DeckPress.Text.Capital

/-!
# Checks of single values

Each check admits the kind of value that it is named for and the other kinds that spell one.
-/
namespace DeckPress.Validation

open Number Text

variable {α : Type}

def string : Json → Checked String
  | .str s => .valid s
  | _ => .fail .notString

def orNull (check : Json → Checked α) : Json → Checked (Option α)
  | .null => .valid none
  | v => (check v).map some

def list (o : Origin) (check : Json → Checked α) : Json → Checked (List α)
  | .arr vs => Checked.each check vs
  | _ => .fail (.notList o)

/-- A list where a fixed row of items is meant. -/
def tuple (o : Origin) (check : Json → Checked α) : Json → Checked (List α)
  | .arr vs => Checked.each check vs
  | _ => .fail (.notTuple o)

/-- A double; integers, truth values and numerals count as one. -/
def number : Json → Checked Float
  | .float x => .valid x
  | .int n =>
    match ofInt? n with
    | some x => .valid x
    | none => .fail .notNumber
  | .bool b => .valid (if b then 1 else 0)
  | .str s =>
    match readPlainNumeral s.toList with
    | some n => .valid n.toFloat
    | none => .fail .unreadableNumber
  | _ => .fail .notNumber

def positiveNumber (v : Json) : Checked Float :=
  (number v).andThen fun x => if 0 < x then .valid x else .fail .notPositive

def wordBound : Int := 9223372036854775808

/-- Doubles from here on are too large to stand for an integer. -/
def integerBound : Float := 9223372036854775808

/-- An integer; whole doubles, truth values and numerals count as one. -/
def integer : Json → Checked Int
  | .int n => .valid n
  | .bool b => .valid (if b then 1 else 0)
  | .float x =>
    if !x.isFinite then .fail .notFinite
    else if !isWhole x then .fail .fractional
    else if -integerBound < x && x < integerBound then .valid (truncated x)
    else .fail .oversized
  | .str s => integerText s
  | _ => .fail .notInteger

def positiveInteger (v : Json) : Checked Int :=
  (integer v).andThen fun n => if 0 < n then .valid n else .fail .notPositive

def flagInteger (n : Int) : Checked Bool :=
  if n = 0 then .valid false
  else if n = 1 then .valid true
  else if -wordBound ≤ n ∧ n < wordBound then .fail .unreadableFlag
  else .fail .notFlag

def falseWords : List String := ["0", "off", "f", "false", "n", "no"]

def trueWords : List String := ["1", "on", "t", "true", "y", "yes"]

/-- A truth value; zero and one and some words count as one. -/
def flag : Json → Checked Bool
  | .bool b => .valid b
  | .int n => flagInteger n
  | .float x =>
    if isWhole x && -integerBound < x && x < integerBound then flagInteger (truncated x)
    else .fail .notFlag
  | .str s =>
    if falseWords.contains (small s) then .valid false
    else if trueWords.contains (small s) then .valid true
    else .fail .unreadableFlag
  | _ => .fail .notFlag

def word? (words : List (String × α)) : Json → Option α
  | .str s => words.lookup s
  | _ => none

def choice (words : List (String × α)) (v : Json) : Checked α :=
  match word? words v with
  | some a => .valid a
  | none => .fail (.notAmong (words.map (·.1)))

def member (words : List (String × α)) (v : Json) : Checked α :=
  match word? words v with
  | some a => .valid a
  | none => .fail (.notMember (words.map (·.1)))

def ofLength {β : Type} : Except Length.Fault β → Checked β
  | .ok a => .valid a
  | .error f => .fail (.length f)

/-- A length in inches, or a text that is read as one. An integer beyond all doubles is no number
in data and infinite in JSON text. -/
def length (o : Origin) (positive : Bool) : Json → Checked (Length Float)
  | .float x => ofLength (Length.checkInches positive x)
  | .bool b => ofLength (Length.checkInches positive (if b then 1 else 0))
  | .str s => ofLength (Length.checkText positive s)
  | .int n =>
    match ofInt? n, o with
    | some x, _ => ofLength (Length.checkInches positive x)
    | none, .text => ofLength (Length.checkInches positive (Float.ofInt n))
    | none, .data => neither
  | _ => neither
where
  neither : Checked (Length Float) :=
    .invalid [⟨[.key "float"], .notNumber⟩, ⟨[.key "str"], .notString⟩]

end DeckPress.Validation
