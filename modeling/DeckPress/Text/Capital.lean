/-!
# Capital letters

Comparison of texts in capitals with a word of ASCII letters. Only the characters whose capital
form lies in ASCII matter for it, so every other character is left as it is.
-/
namespace DeckPress.Text

/-- The capital form of a character, where that form is in ASCII. -/
def capital (c : Char) : List Char :=
  match c.toNat with
  | 0xDF => ['S', 'S']
  | 0x131 => ['I']
  | 0x17F => ['S']
  | 0xFB00 => ['F', 'F']
  | 0xFB01 => ['F', 'I']
  | 0xFB02 => ['F', 'L']
  | 0xFB03 => ['F', 'F', 'I']
  | 0xFB04 => ['F', 'F', 'L']
  | 0xFB05 => ['S', 'T']
  | 0xFB06 => ['S', 'T']
  | _ => [c.toUpper]

def capitals (s : String) : String := String.ofList (s.toList.flatMap capital)

def small (s : String) : String := String.ofList (s.toList.map Char.toLower)

end DeckPress.Text
