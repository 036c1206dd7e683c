import DeckPress.Text.Printable

/-!
# Quoted texts

The form in which messages show a text: in single quotes, or in double quotes if it holds a
single one and no double one; what is not printable is written as a numbered escape.
-/
namespace DeckPress.Text.Quoted

/-- The number in base sixteen, with leading zeros up to the width. -/
def hex (width n : Nat) : List Char :=
  let digits := Nat.toDigits 16 n
  List.replicate (width - digits.length) '0' ++ digits

def quoteFor (cs : List Char) : Char :=
  if cs.contains '\'' && !cs.contains '"' then '"' else '\''

def quoteChar (quote c : Char) : List Char :=
  if c == quote || c == '\\' then ['\\', c]
  else if c == '\n' then ['\\', 'n']
  else if c == '\r' then ['\\', 'r']
  else if c == '\t' then ['\\', 't']
  else if isPrintable c then [c]
  else if c.toNat < 0x100 then '\\' :: 'x' :: hex 2 c.toNat
  else if c.toNat < 0x10000 then '\\' :: 'u' :: hex 4 c.toNat
  else '\\' :: 'U' :: hex 8 c.toNat

def quote (cs : List Char) : List Char :=
  let q := quoteFor cs
  q :: cs.flatMap (quoteChar q) ++ [q]

end DeckPress.Text.Quoted

namespace DeckPress.Text

def quoted (s : String) : String := String.ofList (Quoted.quote s.toList)

end DeckPress.Text
