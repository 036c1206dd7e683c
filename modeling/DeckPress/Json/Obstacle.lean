import DeckPress.Json.Body

/-!
# Data that cannot be written

Data is written from left to right. Too many arrays and objects within each other, or too many
digits of an integer, put an end to it. The limits are those of reading a body.
-/
namespace DeckPress.Json

/-- What keeps data from being written. -/
inductive Obstacle
  | tooDeep
  | tooLong
deriving Repr, DecidableEq

def Obstacle.message : Obstacle → String
  | tooDeep => "maximum recursion depth exceeded while encoding a JSON object"
  | tooLong =>
    "Exceeds the limit (" ++ toString Body.digitLimit ++
      " digits) for integer string conversion; " ++
      "use sys.set_int_max_str_digits() to increase the limit"

mutual

/-- The first obstacle in a value, where so many arrays and objects may be within each other. -/
def obstacleWithin? : Nat → Json → Option Obstacle
  | _, int n => if Nat.pow 10 Body.digitLimit ≤ n.natAbs then some .tooLong else none
  | 0, arr _ => some .tooDeep
  | room + 1, arr items => itemsObstacle? room items
  | 0, obj _ => some .tooDeep
  | room + 1, obj entries => entriesObstacle? room entries
  | _, _ => none

def itemsObstacle? (room : Nat) : List Json → Option Obstacle
  | [] => none
  | v :: vs => (obstacleWithin? room v).or (itemsObstacle? room vs)

def entriesObstacle? (room : Nat) : List (String × Json) → Option Obstacle
  | [] => none
  | (_, v) :: es => (obstacleWithin? room v).or (entriesObstacle? room es)

end

def obstacle? (v : Json) : Option Obstacle := v.obstacleWithin? Body.depthLimit

end DeckPress.Json
