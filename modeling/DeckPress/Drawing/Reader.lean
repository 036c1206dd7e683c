import DeckPress.Drawing
import DeckPress.Geometry.Reader

/-!
# Reading drawings

Unknown keys are ignored everywhere in a drawing.
-/
namespace DeckPress.Drawing

open Validation

def tagField : Field := .plain "op"

def tags : List String := ["background", "shape", "image", "text"]

def checkTag (word : String) (es : Json.Entries) : Checked Unit :=
  Field.optional tagField es () (choice [(word, ())])

def checkBackground (es : Json.Entries) : Checked (Instruction Float) :=
  (fun _ color => .background color) <$> checkTag "background" es
    <*> Field.required (.plain "color") es string

def checkShape (es : Json.Entries) : Checked (Instruction Float) :=
  (fun _ kind box color => .shape ⟨kind, box, color⟩) <$> checkTag "shape" es
    <*> Field.required (.plain "kind") es (member Decoration.words)
    <*> Box.entries es number
    <*> Field.required (.plain "color") es string

def checkPicture (es : Json.Entries) : Checked (Instruction Float) :=
  (fun _ url box fallback => .picture ⟨url, box, fallback⟩) <$> checkTag "image" es
    <*> Field.required (.plain "url") es string
    <*> Box.entries es number
    <*> Field.optional (.plain "is_fallback") es false flag

def checkText (es : Json.Entries) : Checked (Instruction Float) :=
  (fun _ text box size bold color align valign backdrop =>
      .text ⟨text, box, size, bold, color, align, valign, backdrop⟩) <$> checkTag "text" es
    <*> Field.required (.plain "text") es string
    <*> Box.entries es number
    <*> Field.required (.plain "font_size") es integer
    <*> Field.optional (.plain "bold") es false flag
    <*> Field.required (.plain "color") es string
    <*> Field.optional (.plain "align") es .left (choice Align.words)
    <*> Field.optional (.plain "valign") es .top (choice VerticalAlign.words)
    <*> Field.optional (.plain "backdrop") es none (orNull string)

def checkInstruction : Json → Checked (Instruction Float)
  | .obj es =>
    match Json.Entries.get? es tagField.key with
    | none => .fail (.untagged tagField.key)
    | some (.str "background") => (checkBackground es).within (.key "background")
    | some (.str "shape") => (checkShape es).within (.key "shape")
    | some (.str "image") => (checkPicture es).within (.key "image")
    | some (.str "text") => (checkText es).within (.key "text")
    | some v => .fail (.unknownTag tagField.key v.shown tags)
  | _ => .fail (.notTagged .data)

def checkSlide : Json → Checked (Slide Float) :=
  record .data "CompiledSlide" fun es =>
    Slide.mk <$> Field.required (.plain "index") es integer
      <*> Field.required (.plain "instructions") es (tuple .data checkInstruction)

def read (v : Json) : Except Refusal (Drawing Float) :=
  let check := record .data "CompiledDeck" fun es =>
    Drawing.mk <$> Field.required (.plain "canvas") es (Canvas.check .data)
      <*> Field.required (.plain "slides") es (tuple .data checkSlide)
  (check v).toExcept "CompiledDeck"

end DeckPress.Drawing
