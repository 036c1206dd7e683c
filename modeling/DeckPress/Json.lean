/-!
# JSON values

Values of JSON text. Whole numbers and doubles are kept apart, and the entries of an object keep
the order in which their keys came first.
-/
namespace DeckPress

inductive Json
  | null
  | bool (b : Bool)
  | int (n : Int)
  | float (x : Float)
  | str (s : String)
  | arr (items : List Json)
  | obj (entries : List (String × Json))
deriving Inhabited, Repr

namespace Json

mutual

def same : Json → Json → Bool
  | null, null => true
  | bool b, bool c => b == c
  | int m, int n => m == n
  | float x, float y => decide (x = y)
  | str s, str t => s == t
  | arr vs, arr ws => sameItems vs ws
  | obj es, obj fs => sameEntries es fs
  | _, _ => false

def sameItems : List Json → List Json → Bool
  | [], [] => true
  | v :: vs, w :: ws => same v w && sameItems vs ws
  | _, _ => false

def sameEntries : List (String × Json) → List (String × Json) → Bool
  | [], [] => true
  | (k, v) :: es, (l, w) :: fs => k == l && same v w && sameEntries es fs
  | _, _ => false

end

mutual

theorem same_eq_true : ∀ {v w : Json}, same v w = true ↔ v = w
  | null, w => by cases w <;> simp [same]
  | bool _, w => by cases w <;> simp [same]
  | int _, w => by cases w <;> simp [same]
  | float _, w => by cases w <;> simp [same]
  | str _, w => by cases w <;> simp [same]
  | arr _, w => by cases w <;> simp [same, sameItems_eq_true]
  | obj _, w => by cases w <;> simp [same, sameEntries_eq_true]

theorem sameItems_eq_true : ∀ {vs ws : List Json}, sameItems vs ws = true ↔ vs = ws
  | [], ws => by cases ws <;> simp [sameItems]
  | v :: vs, ws => by cases ws <;> simp [sameItems, same_eq_true, sameItems_eq_true]

theorem sameEntries_eq_true :
    ∀ {es fs : List (String × Json)}, sameEntries es fs = true ↔ es = fs
  | [], fs => by cases fs <;> simp [sameEntries]
  | (k, v) :: es, fs => by
    cases fs <;> simp [sameEntries, same_eq_true, sameEntries_eq_true, Prod.ext_iff]

end

instance : DecidableEq Json := fun _ _ => decidable_of_iff _ same_eq_true

abbrev Entries := List (String × Json)

namespace Entries

def get? (es : Entries) (key : String) : Option Json := es.lookup key

/-- A new key goes to the end; a known key keeps its place and takes the new value. -/
def put : Entries → String → Json → Entries
  | [], key, v => [(key, v)]
  | (k, w) :: es, key, v => if k == key then (k, v) :: es else (k, w) :: put es key v

end Entries

/-- Null, false, zero and everything empty are vain. -/
def isVain : Json → Bool
  | null => true
  | bool b => !b
  | int n => n == 0
  | float x => x == 0
  | str s => s.isEmpty
  | arr items => items.isEmpty
  | obj entries => entries.isEmpty

def ofOption {α : Type} (f : α → Json) : Option α → Json
  | none => null
  | some a => f a

end Json

end DeckPress
