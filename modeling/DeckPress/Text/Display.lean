import DeckPress.Text.Blank

/-!
# Displayed texts

A text is shown without the indent that all its lines have in common, and without blanks at its
ends.
-/
namespace DeckPress.Text

def isIndent (c : Char) : Bool := c == ' ' || c == '\t'

/-- Lines of nothing but indent are empty. -/
def emptied (line : List Char) : List Char := if line.all isIndent then [] else line

def indent (line : List Char) : List Char := line.takeWhile isIndent

def commonStart : List Char → List Char → List Char
  | a :: as, b :: bs => if a == b then a :: commonStart as bs else []
  | _, _ => []

/-- The indent that all lines have in common; empty lines do not count. -/
def margin (lines : List (List Char)) : List Char :=
  match (lines.filter (!·.isEmpty)).map indent with
  | [] => []
  | i :: is => is.foldl commonStart i

def withoutMargin (m line : List Char) : List Char :=
  if m.isPrefixOf line then line.drop m.length else line

def displayed (s : String) : String :=
  let lines := (pieces (· == '\n') s.toList).map emptied
  String.ofList (trim (List.intercalate ['\n'] (lines.map (withoutMargin (margin lines)))))

end DeckPress.Text
