import DeckPress.Attempt
import DeckPress.Image
import DeckPress.Json.Body
import DeckPress.Validation

/-!
# Image search

A search service answers with a page of results, and a slide takes the result at its own position,
counted round the page, so that slides on one topic differ. A service that is unwilling is
replaced by the fallback image; one that cannot be understood too, unless the search is strict.
-/
namespace DeckPress.Image

structure Search where
  accessKey : String
  fallbackUrl : String := defaultFallback
  strict : Bool := false
  perPage : Int := 10
  endpoint : String := "https://api.unsplash.com/search/photos"
deriving Repr, DecidableEq

namespace Search

structure Call where
  url : String
  query : String
  orientation : String := "landscape"
  perPage : Int
  authorization : String
  version : String := "v1"
  timeout : Nat := 10
deriving Repr, DecidableEq

def call (s : Search) (query : String) : Call where
  url := s.endpoint
  query := query
  perPage := s.perPage
  authorization := "Client-ID " ++ s.accessKey

inductive Fault
  | system (reason : String)
  | tooDeep
  /-- Entries are looked for in a value that has none. -/
  | noEntries
  /-- A result is looked for by its position in an object. -/
  | noPosition
  /-- Results are counted in a value that is no list. -/
  | noCount
  | refused (r : Validation.Refusal)
deriving Repr, DecidableEq

def fallback (s : Search) : Answer := .found ⟨s.fallbackUrl, true⟩

def results : Json → Json
  | .obj es => (Json.Entries.get? es "results").getD .null
  | _ => .null

/-- The item of a list at a position, counted round the list. -/
def cycled {α : Type} (items : List α) (i : Int) : Option α :=
  items[(i % items.length).toNat]?

/-- The result for a slide on a page that is not vain. -/
def choose (slide : Int) : Json → Except Fault Json
  | .arr items => .ok ((cycled items slide).getD .null)
  | .str s => .ok (((cycled s.toList slide).map fun c => Json.str c.toString).getD .null)
  | .obj _ => .error .noPosition
  | _ => .error .noCount

/-- An entry of a value; what is vain has none. -/
def entry (v : Json) (key : String) : Except Fault Json :=
  if v.isVain then .ok .null
  else
    match v with
    | .obj es => .ok ((Json.Entries.get? es key).getD .null)
    | _ => .error .noEntries

def noText : Validation.Refusal := ⟨"ImageReference", [⟨[.key "url"], .notString⟩]⟩

def ofResult (query : String) (result : Json) : Except Fault Answer := do
  let url ← entry (← entry result "urls") "regular"
  if url.isVain then return .missed query "result has no image URL"
  match url with
  | .str u => return .found ⟨u, false⟩
  | _ => throw (.refused noText)

def ofPage (query : String) (slide : Int) (page : Json) : Except Fault Answer :=
  if (results page).isVain then .ok (.missed query "no results")
  else do ofResult query (← choose slide (results page))

def misunderstood (s : Search) (query reason : String) : Answer :=
  if s.strict then .missed query reason else s.fallback

def ofReply (s : Search) (query : String) (slide : Int) : Reply String → Except Fault Answer
  | .error (.transport reason) => .ok (s.misunderstood query reason)
  | .error (.nonsense reason) => .ok (s.misunderstood query reason)
  | .error (.system reason) => .error (.system reason)
  | .ok r =>
    if r.isRateLimited || r.isError then .ok s.fallback
    else
      match Json.Body.read r.body with
      | .error (.malformed reason) => .ok (s.misunderstood query reason)
      | .error .tooDeep => .error .tooDeep
      | .ok page => ofPage query slide page

end Search

abbrev Resolver (σ : Type) := Request → Attempt Search.Fault σ Answer

/-- A resolver that asks the service once for every request. -/
def Search.resolver {σ : Type} (s : Search) (service : Search.Call → StateM σ (Reply String)) :
    Resolver σ := fun r => do
  let query := searchQuery r.query r.text
  let reply ← Attempt.ofState (service (s.call query))
  .ofExcept (s.ofReply query r.slide reply)

end DeckPress.Image
