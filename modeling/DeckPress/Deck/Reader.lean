import DeckPress.Deck
import DeckPress.Json.Obstacle
import DeckPress.Validation.Field
import DeckPress.Validation.Atom

/-!
# Reading decks

A deck is read from data of any shape. Every fault is found; the first one tells whether the data
is to blame as a whole or one of its slides.
-/
namespace DeckPress

open Validation

namespace Region

def fields : List Field := ["x", "y", "w", "h"].map Field.plain

/-- Positions are zero unless given; sizes have to be given and positive. -/
def check (o : Origin) (es : Json.Entries) : Checked (Region Float) :=
  Region.mk <$> Field.optional (.plain "x") es (.inches 0) (length o false)
    <*> Field.optional (.plain "y") es (.inches 0) (length o false)
    <*> Field.required (.plain "w") es (length o true)
    <*> Field.required (.plain "h") es (length o true)

end Region

def tagField : Field := .plain "type"

namespace TextRegion

def sizeField : Field := ⟨"fontSize", "font_size"⟩

def fields : List Field :=
  Region.fields ++ [tagField, .plain "text", sizeField, .plain "bold", .plain "align"]

def defaultFontSize : Int := 18

def check (o : Origin) (es : Json.Entries) : Checked (TextRegion Float) :=
  (fun r _ text size bold align _ => ⟨r, text, size, bold, align⟩) <$> Region.check o es
    <*> Field.optional tagField es () (choice [("text", ())])
    <*> Field.optional (.plain "text") es "" string
    <*> Field.optional sizeField es defaultFontSize positiveInteger
    <*> Field.optional (.plain "bold") es false flag
    <*> Field.optional (.plain "align") es .left (choice Align.words)
    <*> noOthers fields es

def read (v : Json) : Except Refusal (TextRegion Float) :=
  (record .data "TextRegion" (check .data) v).toExcept "TextRegion"

end TextRegion

namespace ImageRegion

def queryField : Field := ⟨"urlOrQuery", "url_or_query"⟩

def fields : List Field := Region.fields ++ [tagField, queryField]

def check (o : Origin) (es : Json.Entries) : Checked (ImageRegion Float) :=
  (fun r _ query _ => ⟨r, query⟩) <$> Region.check o es
    <*> Field.optional tagField es () (choice [("image", ())])
    <*> Field.optional queryField es "" string
    <*> noOthers fields es

def read (v : Json) : Except Refusal (ImageRegion Float) :=
  (record .data "ImageRegion" (check .data) v).toExcept "ImageRegion"

end ImageRegion

def SlideObject.check (o : Origin) : Json → Checked (SlideObject Float)
  | .obj es =>
    match Json.Entries.get? es tagField.key with
    | none => .fail (.untagged tagField.key)
    | some (.str "text") => ((TextRegion.check o es).map text).within (.key "text")
    | some (.str "image") => ((ImageRegion.check o es).map image).within (.key "image")
    | some v => .fail (.unknownTag tagField.key v.shown ["text", "image"])
  | _ => .fail (.notTagged o)

namespace Slide

def checkGeneric (o : Origin) (es : Json.Entries) : Checked (List (SlideObject Float)) :=
  (fun objects _ => objects) <$>
    Field.required (.plain "objects") es (list o (SlideObject.check o))
    <*> noOthers [.plain "objects"] es

def queryField : Field := ⟨"imageQuery", "image_query"⟩

def templatedFields : List Field :=
  [.plain "title", .plain "content", .plain "layout", queryField]

def checkTemplated (es : Json.Entries) : Checked TemplatedSlide :=
  (fun title content layout query _ => ⟨title, content, layout, query⟩) <$>
    Field.required (.plain "title") es string
    <*> Field.optional (.plain "content") es "" string
    <*> Field.optional (.plain "layout") es none (orNull string)
    <*> Field.optional queryField es none (orNull string)
    <*> noOthers templatedFields es

def modelName : SlideModel → String
  | .templated => "TemplatedSlide"
  | .generic => "GenericSlide"

def checkModel (o : Origin) : SlideModel → Json → Checked (Slide Float)
  | .generic, v => (record o (modelName .generic) (checkGeneric o) v).map generic
  | .templated, v => (record o (modelName .templated) checkTemplated v).map templated

/-- A slide of either kind. If it is none, the issues as a generic slide come first. -/
def check (o : Origin) (v : Json) : Checked (Slide Float) :=
  match checkModel o .generic v, checkModel o .templated v with
  | .valid s, _ => .valid s
  | .invalid _, .valid s => .valid s
  | .invalid as, .invalid bs =>
    (Checked.invalid as).within (.key (modelName .generic)) <*
      (Checked.invalid (α := Unit) bs).within (.key (modelName .templated))

def read (m : SlideModel) (v : Json) : Except Refusal (Slide Float) :=
  (checkModel .data m v).toExcept (modelName m)

end Slide

namespace Deck

def check (o : Origin) : Json → Checked (Deck Float) :=
  record o "Deck" fun es =>
    Deck.mk <$> Field.optional (.plain "slides") es [] (list o (Slide.check o))
      <*> Field.optional (.plain "topic") es none (orNull string)

def payloadName : SlideModel → String
  | .templated => "TemplatedDeckPayload"
  | .generic => "GenericDeckPayload"

def checkPayload (o : Origin) (m : SlideModel) : Json → Checked (List (Slide Float)) :=
  record o (payloadName m) fun es =>
    Field.required (.plain "slides") es (list o (Slide.checkModel o m))

/-- Why data is no deck: the first issue, and the beginning of the data as text. -/
structure Mismatch where
  issue : Issue
  payload : String
deriving Repr, DecidableEq

def payloadLimit : Nat := 500

def fragment (s : String) : String := String.ofList (s.toList.take payloadLimit)

/-- The slide on the way to a place, unless the list of slides itself is meant. -/
def slideIndex : List Step → Option Nat
  | .key "slides" :: .index i :: _ => some i
  | _ => none

namespace Mismatch

def slide (m : Mismatch) : Option Nat := slideIndex m.issue.path

def message (m : Mismatch) : String :=
  "Slide description does not match the expected shape at " ++
    (if m.issue.path.isEmpty then "deck" else m.issue.place) ++ ": " ++ m.issue.fault.message

end Mismatch

def mismatch (data : Json) (issues : List Issue) : Mismatch :=
  ⟨issues.headD ⟨[], .missing⟩, fragment (data.print Json.quotedStyle)⟩

inductive Rejection
  | mismatch (m : Mismatch)
  /-- The data is no deck, and it cannot be quoted either. -/
  | unquotable (o : Json.Obstacle)
deriving Repr, DecidableEq

/-- Data with issues is quoted, if it can be written. -/
def reject (data : Json) (issues : List Issue) : Rejection :=
  match data.obstacle? with
  | none => .mismatch (mismatch data issues)
  | some o => .unquotable o

/-- A list of slides alone is a deck without a topic. -/
def wrapped : Json → Json
  | .arr items => .obj [("slides", .arr items)]
  | v => v

def parse (data : Json) : Except Rejection (Deck Float) :=
  match check .data (wrapped data) with
  | .valid d => .ok d
  | .invalid issues => .error (reject (wrapped data) issues)

end Deck

end DeckPress
