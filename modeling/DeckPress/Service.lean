/-!
# Services

What programs ask the outside world for. A service answers requests and may remember them; a
script answers them in turn with prepared answers and keeps what it was asked.
-/
namespace DeckPress

inductive Mishap
  | transport (reason : String)
  | system (reason : String)
  /-- The request makes no sense. -/
  | nonsense (reason : String)
deriving Repr, DecidableEq

structure Response (β : Type) where
  status : Int
  body : β
deriving Repr, DecidableEq

namespace Response

variable {β : Type}

def isError (r : Response β) : Bool := 400 ≤ r.status && r.status < 600

def isRateLimited (r : Response β) : Bool := r.status == 429

end Response

abbrev Reply (β : Type) := Except Mishap (Response β)

structure Script (ρ α : Type) where
  pending : List α
  asked : List ρ := []

namespace Script

variable {ρ α : Type}

/-- Takes the next answer; when there are no more, the given one. -/
def ask (s : Script ρ α) (last : α) (r : ρ) : α × Script ρ α :=
  match s.pending with
  | [] => (last, ⟨[], s.asked ++ [r]⟩)
  | a :: as => (a, ⟨as, s.asked ++ [r]⟩)

def restarted (s : Script ρ α) : Script ρ α := ⟨s.pending, []⟩

end Script

end DeckPress
