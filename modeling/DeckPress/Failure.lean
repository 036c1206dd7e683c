import DeckPress.Compiler
import DeckPress.Conversation
import DeckPress.Presentation

/-!
# Failures

All that can go wrong on the way from a message to a presentation. The failures that concern a
deck and its services are reported to the user, with what is known about them.
-/
namespace DeckPress

/-- A failure in the form in which it is reported. -/
inductive Report
  | emptyDeck
  | schema (message : String) (payload : String) (slide : Option Nat)
  | image (slide : Nat) (field query reason : String)
  | service (name : String) (status : Option Int) (reason : String)
deriving Repr, DecidableEq

namespace Report

def kind : Report → String
  | emptyDeck => "EmptyDeckError"
  | schema .. => "SchemaError"
  | image .. => "ImageResolutionError"
  | service .. => "UpstreamServiceError"

def message : Report → String
  | emptyDeck => "The deck has 0 slides."
  | schema message _ _ => message
  | image slide field _ reason =>
    "Could not resolve image for slide " ++ toString slide ++ " (" ++ field ++ "): " ++ reason
  | service name status reason =>
    name ++ " error (" ++ (status.map toString).getD "None" ++ "): " ++ reason

def context : Report → Json.Entries
  | emptyDeck => []
  | schema _ payload slide =>
    [("payload", .str payload), ("slide_index", Json.ofOption (fun n : Nat => .int n) slide)]
  | image slide field query reason =>
    [("slide_index", .int slide), ("field", .str field), ("query", .str query),
      ("reason", .str reason)]
  | service name status _ => [("service", .str name), ("status", Json.ofOption .int status)]

def toJson (r : Report) : Json :=
  .obj (("error", .str r.kind) :: ("message", .str r.message) :: r.context)

end Report

namespace Compiler.Fault

/-- The report of a fault. Data that cannot be quoted, a search that broke off and bounds that were
refused have none. -/
def report? : Fault → Option Report
  | mismatch m => some (.schema m.message m.payload m.slide)
  | unquotable _ => none
  | emptyDeck => some .emptyDeck
  | image slide n reason => some (.image slide n.place.text n.query reason)
  | search _ => none
  | refused _ => none

end Compiler.Fault

namespace Conversation.Fault

def serviceName : String := "openai"

def mismatchMessage (m : SlideModel) (i : Validation.Issue) : String :=
  "LLM response does not match the " ++ m.word ++ " slide schema at " ++ i.place ++ ": " ++
    i.fault.message

/-- The report of a fault; a request that was never made has none. -/
def report? : Fault → Option Report
  | blankMessage => none
  | unknownModel _ => none
  | service m => some (.service serviceName m.status? m.message)
  | silent payload => some (.schema "LLM response did not contain a slide description" payload none)
  | mismatch m issue payload => some (.schema (mismatchMessage m issue) payload none)

end Conversation.Fault

inductive Failure
  | settings (r : Validation.Refusal)
  | noKey
  | conversation (f : Conversation.Fault)
  | compiling (f : Compiler.Fault)
  | presenting (f : Presentation.Fault)
deriving Repr, DecidableEq

def Failure.report? : Failure → Option Report
  | settings _ => none
  | noKey => some (.service Conversation.Fault.serviceName none "API key not configured")
  | conversation f => f.report?
  | compiling f => f.report?
  | presenting _ => none

end DeckPress
