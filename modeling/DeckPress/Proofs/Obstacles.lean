import DeckPress.Json.Obstacle

/-!
# Data that can be written

A value has a text if its arrays and objects are not too many within each other, and no integer in
it has too many digits. No obstacle is found in such a value, and in any other value there is one.
-/
namespace DeckPress.Json

/-- The value has a text, where so many arrays and objects may be within each other. -/
inductive IsPrintable : Nat → Json → Prop
  | null {room : Nat} : IsPrintable room .null
  | bool {room : Nat} {b : Bool} : IsPrintable room (.bool b)
  | int {room : Nat} {n : Int} (h : n.natAbs < Nat.pow 10 Body.digitLimit) :
      IsPrintable room (.int n)
  | float {room : Nat} {x : Float} : IsPrintable room (.float x)
  | str {room : Nat} {s : String} : IsPrintable room (.str s)
  | arr {room : Nat} {vs : List Json} (h : ∀ v ∈ vs, IsPrintable room v) :
      IsPrintable (room + 1) (.arr vs)
  | obj {room : Nat} {es : Entries} (h : ∀ e ∈ es, IsPrintable room e.2) :
      IsPrintable (room + 1) (.obj es)

mutual

theorem obstacleWithin?_eq_none_iff :
    ∀ {room : Nat} {v : Json}, v.obstacleWithin? room = none ↔ v.IsPrintable room
  | _, .null => iff_of_true rfl .null
  | _, .bool _ => iff_of_true rfl .bool
  | _, .int n => by
    rw [obstacleWithin?, ite_eq_right_iff]
    constructor
    · exact fun h => .int (Nat.lt_of_not_le fun hn => nomatch h hn)
    · intro h hn
      cases h with
      | int h => exact absurd hn (Nat.not_le_of_lt h)
  | _, .float _ => iff_of_true rfl .float
  | _, .str _ => iff_of_true rfl .str
  | 0, .arr _ => iff_of_false nofun nofun
  | room + 1, .arr vs => by
    rw [obstacleWithin?, itemsObstacle?_eq_none_iff]
    exact ⟨.arr, fun | .arr h => h⟩
  | 0, .obj _ => iff_of_false nofun nofun
  | room + 1, .obj es => by
    rw [obstacleWithin?, entriesObstacle?_eq_none_iff]
    exact ⟨.obj, fun | .obj h => h⟩

theorem itemsObstacle?_eq_none_iff :
    ∀ {room : Nat} {vs : List Json},
      itemsObstacle? room vs = none ↔ ∀ v ∈ vs, v.IsPrintable room
  | _, [] => by simp [itemsObstacle?]
  | _, v :: vs => by
    rw [itemsObstacle?, Option.or_eq_none_iff, obstacleWithin?_eq_none_iff,
      itemsObstacle?_eq_none_iff, List.forall_mem_cons]

theorem entriesObstacle?_eq_none_iff :
    ∀ {room : Nat} {es : Entries},
      entriesObstacle? room es = none ↔ ∀ e ∈ es, e.2.IsPrintable room
  | _, [] => by simp [entriesObstacle?]
  | _, (k, v) :: es => by
    rw [entriesObstacle?, Option.or_eq_none_iff, obstacleWithin?_eq_none_iff,
      entriesObstacle?_eq_none_iff, List.forall_mem_cons]

end

theorem obstacle?_eq_none_iff {v : Json} : v.obstacle? = none ↔ v.IsPrintable 985 :=
  obstacleWithin?_eq_none_iff

/-- Data that is not to be written has an obstacle. -/
theorem exists_obstacle?_iff {v : Json} : (∃ o, v.obstacle? = some o) ↔ ¬v.IsPrintable 985 := by
  rw [← obstacle?_eq_none_iff, ← ne_eq, Option.ne_none_iff_exists']

/-- A list in a list, and so on, with so many lists around the innermost one. -/
def nested : Nat → Json
  | 0 => .arr []
  | n + 1 => .arr [nested n]

theorem obstacleWithin?_nested (room n : Nat) :
    (nested n).obstacleWithin? room = if room ≤ n then some .tooDeep else none := by
  induction n generalizing room with
  | zero => cases room <;> rfl
  | succ n ih =>
    cases room with
    | zero => rfl
    | succ room => simp [nested, obstacleWithin?, itemsObstacle?, ih]

end DeckPress.Json
