import DeckPress.Json.Printer
import DeckPress.Length

/-!
# Validation of given data

Data is checked as a whole: every issue is reported, each with its place inside the data. Checks
are put together with `Seq`, which keeps the issues of both sides in order.
-/
namespace DeckPress.Validation

/-- Data of a program, or data read from JSON text; some faults are told in the words of JSON for
the latter. -/
inductive Origin
  | data
  | text
deriving Repr, DecidableEq

inductive Step
  | key (name : String)
  | index (n : Nat)
deriving Repr, DecidableEq

def Step.text : Step → String
  | key name => name
  | index n => toString n

inductive Fault
  | missing
  | unknownKey
  | notRecord (name : String) (origin : Origin)
  | notList (origin : Origin)
  | notTuple (origin : Origin)
  | notString
  | notNumber
  | unreadableNumber
  | notPositive
  | notInteger
  | unreadableInteger
  | fractional
  | notFinite
  | oversized
  | notFlag
  | unreadableFlag
  | notAmong (words : List String)
  | notMember (words : List String)
  | untagged (key : String)
  | unknownTag (key tag : String) (tags : List String)
  | notTagged (origin : Origin)
  | length (f : Length.Fault)
  | notJson (reason : String)
deriving Repr, DecidableEq

def quotedWord (w : String) : String := "'" ++ w ++ "'"

/-- Words in quotes with commas between them, and `or` before the last. -/
def alternatives : List String → String
  | [] => ""
  | [w] => quotedWord w
  | [v, w] => quotedWord v ++ " or " ++ quotedWord w
  | v :: ws => quotedWord v ++ ", " ++ alternatives ws

namespace Fault

def code : Fault → String
  | missing => "missing"
  | unknownKey => "extra_forbidden"
  | notRecord .. => "model_type"
  | notList _ => "list_type"
  | notTuple _ => "tuple_type"
  | notString => "string_type"
  | notNumber => "float_type"
  | unreadableNumber => "float_parsing"
  | notPositive => "greater_than"
  | notInteger => "int_type"
  | unreadableInteger => "int_parsing"
  | fractional => "int_from_float"
  | notFinite => "finite_number"
  | oversized => "int_parsing_size"
  | notFlag => "bool_type"
  | unreadableFlag => "bool_parsing"
  | notAmong _ => "literal_error"
  | notMember _ => "enum"
  | untagged _ => "union_tag_not_found"
  | unknownTag .. => "union_tag_invalid"
  | notTagged _ => "model_attributes_type"
  | length _ => "value_error"
  | notJson _ => "json_invalid"

def message : Fault → String
  | missing => "Field required"
  | unknownKey => "Extra inputs are not permitted"
  | notRecord name .data => "Input should be a valid dictionary or instance of " ++ name
  | notRecord _ .text => "Input should be an object"
  | notList .data => "Input should be a valid list"
  | notList .text => "Input should be a valid array"
  | notTuple .data => "Input should be a valid tuple"
  | notTuple .text => "Input should be a valid array"
  | notString => "Input should be a valid string"
  | notNumber => "Input should be a valid number"
  | unreadableNumber => "Input should be a valid number, unable to parse string as a number"
  | notPositive => "Input should be greater than 0"
  | notInteger => "Input should be a valid integer"
  | unreadableInteger => "Input should be a valid integer, unable to parse string as an integer"
  | fractional => "Input should be a valid integer, got a number with a fractional part"
  | notFinite => "Input should be a finite number"
  | oversized => "Unable to parse input string as an integer, exceeded maximum size"
  | notFlag => "Input should be a valid boolean"
  | unreadableFlag => "Input should be a valid boolean, unable to interpret input"
  | notAmong words => "Input should be " ++ alternatives words
  | notMember words => "Input should be " ++ alternatives words
  | untagged key => "Unable to extract tag using discriminator " ++ quotedWord key
  | unknownTag key tag tags =>
    "Input tag " ++ quotedWord tag ++ " found using " ++ quotedWord key ++
      " does not match any of the expected tags: " ++ ", ".intercalate (tags.map quotedWord)
  | notTagged .data => "Input should be a valid dictionary or object to extract fields from"
  | notTagged .text => "Input should be an object"
  | length f => "Value error, " ++ f.message
  | notJson reason => "Invalid JSON: " ++ reason

end Fault

structure Issue where
  path : List Step
  fault : Fault
deriving Repr, DecidableEq

def Issue.place (i : Issue) : String := ".".intercalate (i.path.map Step.text)

/-- Data that was refused: what it should have been, and every issue. -/
structure Refusal where
  subject : String
  issues : List Issue
deriving Repr, DecidableEq

end DeckPress.Validation

namespace DeckPress

open Validation

/-- What a check makes of data, or every issue that it has with it. -/
inductive Checked (α : Type)
  | valid (a : α)
  | invalid (issues : List Issue)
deriving Repr, DecidableEq

namespace Checked

variable {α β : Type}

def map (f : α → β) : Checked α → Checked β
  | valid a => valid (f a)
  | invalid issues => invalid issues

/-- Both checks are made; the issues of the first come first. -/
def seq : Checked (α → β) → (Unit → Checked α) → Checked β
  | valid f, x => (x ()).map f
  | invalid issues, x =>
    match x () with
    | valid _ => invalid issues
    | invalid more => invalid (issues ++ more)

instance : Functor Checked := ⟨map, map ∘ fun a _ => a⟩

instance : Applicative Checked := { pure := valid, seq := seq }

def fail (f : Fault) : Checked α := invalid [⟨[], f⟩]

/-- The issues belong to a part of the data, one step inside it. -/
def within (s : Step) : Checked α → Checked α
  | valid a => valid a
  | invalid issues => invalid (issues.map fun i => { i with path := s :: i.path })

/-- A second check of what the first one made; not made if the first one failed. -/
def andThen (x : Checked α) (f : α → Checked β) : Checked β :=
  match x with
  | valid a => f a
  | invalid issues => invalid issues

def toExcept (subject : String) : Checked α → Except Refusal α
  | valid a => .ok a
  | invalid issues => .error ⟨subject, issues⟩

def eachFrom (check : Json → Checked α) (n : Nat) : List Json → Checked (List α)
  | [] => valid []
  | v :: vs => List.cons <$> (check v).within (.index n) <*> eachFrom check (n + 1) vs

def each (check : Json → Checked α) (vs : List Json) : Checked (List α) := eachFrom check 0 vs

end Checked

end DeckPress
