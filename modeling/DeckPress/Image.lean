import DeckPress.Service
import DeckPress.Text.Blank

/-!
# Images

An image is asked for by a query, and found under an address. A query that is an address itself
needs no search.
-/
namespace DeckPress.Image

open Text

structure Reference where
  url : String
  isFallback : Bool := false
deriving Repr, DecidableEq

structure Request where
  query : String
  slide : Int
  text : String
deriving Repr, DecidableEq

inductive Answer
  | found (r : Reference)
  /-- Nothing was found: the query that was tried, and why. -/
  | missed (query reason : String)
  | nothing
deriving Repr, DecidableEq

def Answer.reason : Answer → String
  | missed _ reason => reason
  | _ => ""

def defaultFallback : String :=
  "https://images.unsplash.com/photo-1488590528505-98d2b5aba04b?fit=max&fm=jpg&q=80&w=1080"

def keywordLimit : Nat := 5

def keywordLength : Nat := 4

def keywords (text : String) : List (List Char) :=
  ((words text.toList).filter fun w => keywordLength ≤ w.length).take keywordLimit

/-- The query, followed by the keywords of the slide's text. -/
def searchQuery (query text : String) : String :=
  String.ofList (trim (query.toList ++ ' ' :: unwords (keywords text)))

def schemes : List String := ["http://", "https://"]

/-- The text is an address of the web, whatever the case of its scheme. -/
def isDirectUrl (s : String) : Bool :=
  schemes.any fun p => p.toList.isPrefixOf ((trim s.toList).map Char.toLower)

end DeckPress.Image
