import DeckPress.Attempt
import DeckPress.Deck.Printer
import DeckPress.Deck.Schema
import DeckPress.Json.Reply
import DeckPress.Topic

/-!
# Conversations with a model

A language model is asked for slides, once per deck. What it is sent is the prompt for the kind of
slides, the turns so far, and the message; what it answers has to be JSON text of such slides.
-/
namespace DeckPress

inductive Role
  | system
  | user
  | assistant
deriving Repr, DecidableEq

def Role.word : Role → String
  | system => "system"
  | user => "user"
  | assistant => "assistant"

/-- A turn of a conversation: said here, or given from outside in whatever form the service is to
have it. -/
inductive Turn
  | said (role : Role) (content : String)
  | given (v : Json)
deriving Repr

def Turn.toJson : Turn → Json
  | said r content => .obj [("role", .str r.word), ("content", .str content)]
  | given v => v

namespace Conversation

structure Request where
  model : String
  messages : List Turn
  schema : SlideModel
deriving Repr

/-- What a model says, and the form in which the whole response is quoted. -/
structure Response where
  content : Option String
  text : String
deriving Repr, DecidableEq

/-- A response as a service sends it: what each of its choices says, if it has any. -/
structure Completion where
  choices : Option (List (Option String))
  text : String
deriving Repr, DecidableEq

/-- Of several choices the first one counts. -/
def Completion.response (c : Completion) : Response := ⟨(c.choices.getD []).head?.join, c.text⟩

inductive Mishap
  | status (code : Int) (message : String)
  | unreachable
  | timeout
  | other (message : String)
deriving Repr, DecidableEq

namespace Mishap

def status? : Mishap → Option Int
  | status code _ => some code
  | _ => none

def message : Mishap → String
  | status _ message => message
  | unreachable => "Connection error."
  | timeout => "Request timed out."
  | other message => message

end Mishap

abbrev Reply := Except Mishap Response

abbrev Service (σ : Type) := Request → StateM σ Reply

inductive Fault
  | blankMessage
  | unknownModel (name : String)
  | service (m : Mishap)
  | silent (payload : String)
  | mismatch (model : SlideModel) (issue : Validation.Issue) (payload : String)
deriving Repr, DecidableEq

/-- What a message or a kind of slides is refused with; the other faults are reported in full. -/
def Fault.refusal? : Fault → Option String
  | blankMessage => some "message must be a non-empty string"
  | unknownModel name => some ("Unknown slide schema: " ++ name)
  | _ => none

def templatedPrompt : String :=
  "You are an expert presentation writer.\n" ++
  "You MUST output valid JSON matching the provided JSON schema.\n" ++
  "Each slide has a title, its content, a layout and an optional imageQuery.\n" ++
  "Allowed layouts: title, mainPoint, twoContent, comparison, titleOnly.\n" ++
  "For twoContent and comparison, separate the left and right halves of the content with a " ++
  "single '|'.\n" ++
  "Only set imageQuery when a photo would help the slide; keep it to a few search words.\n"

def genericPrompt : String :=
  "You are a PowerPoint designer. Create slides with text boxes, font sizes, and positions.\n" ++
  "You MUST output valid JSON matching the provided JSON schema.\n" ++
  "Use inches on a 10 x 7.5 inch canvas, or percentages of the canvas such as \"80%\".\n" ++
  "For images, give the position and size plus a short search query in urlOrQuery; " ++
  "we fetch the actual photo.\n"

def prompt : SlideModel → String
  | .templated => templatedPrompt
  | .generic => genericPrompt

def editMessage (instruction : String) : String :=
  "User Edit Instruction: " ++ instruction ++
    "\n\nApply the edits and return the FULL UPDATED slide list."

def request (model : String) (m : SlideModel) (turns : List Turn) (message : String) : Request :=
  ⟨model, .said .system (prompt m) :: turns ++ [.said .user message], m⟩

def isBlank (s : String) : Bool := s.toList.all Text.isBlank

def slides (m : SlideModel) (content : String) : Checked (List (Slide Float)) :=
  match Json.Reply.read content with
  | .error reason => .fail (.notJson reason)
  | .ok v => Deck.checkPayload .text m v

def ofReply (m : SlideModel) : Reply → Except Fault (List (Slide Float))
  | .error e => .error (.service e)
  | .ok r =>
    let content := r.content.getD ""
    if content.isEmpty then .error (.silent (Deck.fragment r.text))
    else
      match slides m content with
      | .valid ss => .ok ss
      | .invalid issues =>
        .error (.mismatch m (issues.headD ⟨[], .missing⟩) (Deck.fragment content))

variable {σ : Type}

def model? (name : String) : Except Fault SlideModel :=
  match SlideModel.words.lookup name with
  | some m => .ok m
  | none => .error (.unknownModel name)

/-- Asks a model for slides: one request, if the kind of slides is known. -/
def ask (service : Service σ) (model schema : String) (turns : List Turn) (message : String) :
    Attempt Fault σ (List (Slide Float)) := do
  let m ← .ofExcept (model? schema)
  let reply ← Attempt.ofState (service (request model m turns message))
  .ofExcept (ofReply m reply)

def generate (service : Service σ) (model schema : String) (turns : List Turn)
    (message : String) : Attempt Fault σ (Deck Float) := do
  if isBlank message then .ofExcept (.error .blankMessage)
  let ss ← ask service model schema turns message
  return ⟨ss, some (Topic.ofMessage message)⟩

/-- The deck as a model has edited it, still on its topic. -/
def edit (service : Service σ) (model schema : String) (turns : List Turn) (d : Deck Float)
    (instruction : String) : Attempt Fault σ (Deck Float) := do
  let ss ← ask service model schema (turns ++ [.said .assistant d.print]) (editMessage instruction)
  return ⟨ss, d.topic⟩

end Conversation

end DeckPress
