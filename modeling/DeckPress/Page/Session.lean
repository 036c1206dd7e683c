import DeckPress.Pipeline

/-!
# Sessions of a page

What a page keeps while its user works: the versions of the deck, which of them is shown, the
presentation to download, and what the user has said.
-/
namespace DeckPress.Page

structure Session where
  /-- The versions, oldest first. -/
  history : List (Deck Float) := []
  shown : Option Nat := none
  download : Option Presentation := none
  turns : List Turn := []
deriving Repr

namespace Session

def limit : Nat := 5

def current (s : Session) : Option (Deck Float) := s.shown.bind fun i => s.history[i]?

/-- The versions up to the shown one. -/
def past (s : Session) : List (Deck Float) := s.history.take ((s.shown.map (· + 1)).getD 0)

/-- Versions beyond the limit cost the oldest one. -/
def kept (ds : List (Deck Float)) : List (Deck Float) := if limit < ds.length then ds.tail else ds

/-- A new version takes the place of all versions after the shown one, and is shown. -/
def push (s : Session) (d : Deck Float) : Session :=
  let history := kept (s.past ++ [d])
  { s with history := history, shown := some (history.length - 1) }

def generated (s : Session) (p : Product) (said : String) : Session :=
  { Session.push { s with history := [], shown := none } p.deck with
    download := some p.presentation, turns := s.turns ++ [.said .user said] }

def edited (s : Session) (p : Product) (said : String) : Session :=
  { s.push p.deck with download := some p.presentation, turns := s.turns ++ [.said .user said] }

end Session

end DeckPress.Page
