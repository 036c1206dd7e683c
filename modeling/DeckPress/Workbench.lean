import DeckPress.Pipeline

/-!
# Work on a deck step by step

A bench holds the deck at hand, its last drawing, and what the user has said. A step that fails
leaves the bench as it is.
-/
namespace DeckPress

structure Workbench where
  deck : Option (Deck Float) := none
  drawing : Option (Drawing Float) := none
  turns : List Turn := []
deriving Repr

namespace Workbench

inductive Step (σ : Type)
  | generate (message schema : String)
  | edit (instruction schema : String)
  | load (data : Json)
  | compile (c : Compiler Float σ)
  | present

inductive Result
  | deck (d : Deck Float)
  | drawing (d : Drawing Float)
  | presentation (p : Presentation)
deriving Repr, DecidableEq

inductive Fault
  | failure (f : Failure)
  | noDeck
  | noDrawing
deriving Repr, DecidableEq

variable {σ : Type}

def withDeck (b : Workbench) (d : Deck Float) (said : String) : Workbench :=
  { b with deck := some d, turns := b.turns ++ [.said .user said] }

def generate (services : Services σ) (b : Workbench) (message schema : String) :
    Attempt Fault σ (Workbench × Result) := do
  let deck := Conversation.generate services.model Settings.defaultModel schema b.turns message
  let d ← deck.adapt fun f => .failure (.conversation f)
  return (b.withDeck d message, .deck d)

def edit (services : Services σ) (b : Workbench) (instruction schema : String) :
    Attempt Fault σ (Workbench × Result) := do
  match b.deck with
  | none => .ofExcept (.error .noDeck)
  | some current =>
    let deck :=
      Conversation.edit services.model Settings.defaultModel schema b.turns current instruction
    let d ← deck.adapt fun f => .failure (.conversation f)
    return (b.withDeck d instruction, .deck d)

def load (b : Workbench) (data : Json) : Except Fault (Workbench × Result) :=
  match Deck.parse data with
  | .ok d => .ok ({ b with deck := some d }, .deck d)
  | .error r => .error (.failure (.compiling (.ofRejection r)))

/-- Without a deck it is null that is compiled. -/
def compile (b : Workbench) (c : Compiler Float σ) : Attempt Fault σ (Workbench × Result) := do
  let drawing :=
    match b.deck with
    | some d => c.compile d
    | none => c.compileData .null
  let d ← drawing.adapt fun f => .failure (.compiling f)
  return ({ b with drawing := some d }, .drawing d)

def present (services : Services σ) (b : Workbench) : Attempt Fault σ (Workbench × Result) := do
  match b.drawing with
  | none => .ofExcept (.error .noDrawing)
  | some d =>
    let p ← (Pipeline.present services d).adapt Fault.failure
    return (b, .presentation p)

def step (services : Services σ) (b : Workbench) : Step σ → Attempt Fault σ (Workbench × Result)
  | .generate message schema => generate services b message schema
  | .edit instruction schema => edit services b instruction schema
  | .load data => .ofExcept (load b data)
  | .compile c => compile b c
  | .present => present services b

end Workbench

end DeckPress
