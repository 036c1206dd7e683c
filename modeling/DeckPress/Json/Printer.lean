import DeckPress.Json
import DeckPress.Number.Format
import DeckPress.Text.Quoted

/-!
# Printed JSON

JSON text in a given style, and the form in which messages show a value.
-/
namespace DeckPress.Json

structure Style where
  gap : String
  keyGap : String
  /-- Characters beyond ASCII are written as numbered escapes. -/
  plain : Bool
  floats : Number.Format

def quotedStyle : Style := ⟨" ", " ", true, Number.quotedData⟩

/-- The text of a deck: nothing between the tokens, every character as it is. -/
def deckStyle : Style := ⟨"", "", false, Number.deckText⟩

def unitEscape (n : Nat) : List Char := '\\' :: 'u' :: Text.Quoted.hex 4 n

/-- The numbered escape of a character; beyond the first plane, of its two surrogates. -/
def numberedEscape (c : Char) : List Char :=
  let n := c.toNat
  if n < 0x10000 then unitEscape n
  else
    let m := n - 0x10000
    unitEscape (0xD800 + m / 0x400) ++ unitEscape (0xDC00 + m % 0x400)

def escapeChar (plain : Bool) (c : Char) : List Char :=
  match c with
  | '"' => ['\\', '"']
  | '\\' => ['\\', '\\']
  | '\n' => ['\\', 'n']
  | '\r' => ['\\', 'r']
  | '\t' => ['\\', 't']
  | '\x08' => ['\\', 'b']
  | '\x0c' => ['\\', 'f']
  | _ =>
    if c.toNat < 0x20 || (plain && 0x7F ≤ c.toNat) then numberedEscape c else [c]

def quote (plain : Bool) (s : String) : String :=
  String.ofList ('"' :: s.toList.flatMap (escapeChar plain) ++ ['"'])

mutual

def print (st : Style) : Json → String
  | null => "null"
  | bool b => if b then "true" else "false"
  | int n => toString n
  | float x => st.floats.write x
  | str s => quote st.plain s
  | arr items => "[" ++ printItems st items ++ "]"
  | obj entries => "\x7b" ++ printEntries st entries ++ "\x7d"

def printItems (st : Style) : List Json → String
  | [] => ""
  | [v] => print st v
  | v :: vs => print st v ++ "," ++ st.gap ++ printItems st vs

def printEntries (st : Style) : List (String × Json) → String
  | [] => ""
  | [(k, v)] => quote st.plain k ++ ":" ++ st.keyGap ++ print st v
  | (k, v) :: es =>
    quote st.plain k ++ ":" ++ st.keyGap ++ print st v ++ "," ++ st.gap ++ printEntries st es

end

mutual

def spell : Json → String
  | null => "None"
  | bool b => if b then "True" else "False"
  | int n => toString n
  | float x => Number.shown.write x
  | str s => Text.quoted s
  | arr items => "[" ++ spellItems items ++ "]"
  | obj entries => "\x7b" ++ spellEntries entries ++ "\x7d"

def spellItems : List Json → String
  | [] => ""
  | [v] => spell v
  | v :: vs => spell v ++ ", " ++ spellItems vs

def spellEntries : List (String × Json) → String
  | [] => ""
  | [(k, v)] => Text.quoted k ++ ": " ++ spell v
  | (k, v) :: es => Text.quoted k ++ ": " ++ spell v ++ ", " ++ spellEntries es

end

/-- A value that is the whole subject of a message: a text stands there without quotes. -/
def shown : Json → String
  | str s => s
  | v => spell v

end DeckPress.Json
