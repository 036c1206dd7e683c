import DeckPress.Text.Blank

/-!
# Topics

The topic of a deck is the beginning of the message that asked for it.
-/
namespace DeckPress.Topic

open Text

def wordLimit : Nat := 5

/-- The first words of a message, joined by single spaces. -/
def ofMessage (message : String) : String :=
  String.ofList (unwords ((words message.toList).take wordLimit))

end DeckPress.Topic
