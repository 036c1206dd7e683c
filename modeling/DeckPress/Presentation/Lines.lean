import DeckPress.Text.Escape

/-!
# Lines of a text

An escaped text falls into lines at its line ends. Control characters that no document can hold
are dropped; two code points that stand for no character cannot be written at all.
-/
namespace DeckPress.Text

def withLineFeeds : List Char → List Char
  | '\r' :: '\n' :: cs => '\n' :: withLineFeeds cs
  | '\r' :: cs => '\n' :: withLineFeeds cs
  | c :: cs => c :: withLineFeeds cs
  | [] => []

/-- Control characters other than tab, line feed and carriage return. -/
def isControl (c : Char) : Bool :=
  let n := c.toNat
  n ≤ 0x08 || n == 0x0B || n == 0x0C || (0x0E ≤ n && n ≤ 0x1F)

/-- The code points that no document can hold and that are not dropped. -/
def isUnwritable (c : Char) : Bool := c.toNat == 0xFFFE || c.toNat == 0xFFFF

def lines (cs : List Char) : List (List Char) :=
  pieces (· == '\n') ((withLineFeeds (decode cs)).filter fun c => !isControl c)

end DeckPress.Text
