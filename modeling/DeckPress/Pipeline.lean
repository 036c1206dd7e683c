import DeckPress.Failure
import DeckPress.Settings

/-!
# From a message to a presentation

A deck is asked for, compiled and presented; the first step that fails ends it.
-/
namespace DeckPress

structure Services (σ : Type) where
  model : Conversation.Service σ
  search : Image.Search.Call → StateM σ (Reply String)
  fetch : Presentation.Fetcher σ

structure Product where
  deck : Deck Float
  drawing : Drawing Float
  presentation : Presentation
deriving Repr, DecidableEq

namespace Pipeline

variable {σ : Type}

def compile (c : Compiler Float σ) (d : Deck Float) : Attempt Failure σ (Drawing Float) :=
  (c.compile d).adapt Failure.compiling

def present (services : Services σ) (d : Drawing Float) : Attempt Failure σ Presentation :=
  (Presentation.ofDrawing services.fetch d).adapt Failure.presenting

def produce (services : Services σ) (c : Compiler Float σ)
    (deck : Attempt Conversation.Fault σ (Deck Float)) : Attempt Failure σ Product := do
  let d ← deck.adapt Failure.conversation
  let drawing ← compile c d
  let p ← present services drawing
  return ⟨d, drawing, p⟩

def key (s : Settings) : Except Failure String :=
  if s.modelKey.isEmpty then .error .noKey else .ok s.modelKey

def run (services : Services σ) (s : Settings) (turns : List Turn) (message : String) :
    Attempt Failure σ Product :=
  match key s with
  | .error e => throw e
  | .ok _ =>
    produce services (s.compiler services.search)
      (Conversation.generate services.model s.model s.slideModel.word turns message)

end Pipeline

end DeckPress
