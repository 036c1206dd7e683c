/-!
# Attempts

A computation that may fail and works on a state. What it did to the state before it failed stays
done, so that the requests of a failed computation can still be told.
-/
namespace DeckPress

abbrev Attempt (ε σ α : Type) := ExceptT ε (StateM σ) α

namespace Attempt

variable {ε σ α : Type}

def ofExcept (x : Except ε α) : Attempt ε σ α := fun s => (x, s)

/-- A step on the state that cannot fail. -/
def ofState (x : StateM σ α) : Attempt ε σ α := fun s => ((.ok (x s).1), (x s).2)

def outcome (x : Attempt ε σ α) (s : σ) : Except ε α × σ := x s

end Attempt

end DeckPress
