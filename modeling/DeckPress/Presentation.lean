import DeckPress.Attempt
import DeckPress.Drawing
import DeckPress.Number.Binary
import DeckPress.Picture.Reader
import DeckPress.Presentation.Color
import DeckPress.Presentation.Lines
import DeckPress.Service

/-!
# Presentations

A presentation is what a drawing comes to: slides with shapes, all lengths in whole units of which
an inch has 914400. A picture that cannot be had is left out; whatever else cannot be drawn is an
error.
-/
namespace DeckPress

structure Frame where
  x : Int
  y : Int
  w : Int
  h : Int
deriving Repr, DecidableEq

structure Font where
  size : Int
  bold : Bool
  color : Color
deriving Repr, DecidableEq

/-- One line of a text; all of it has one font. -/
structure Paragraph where
  text : String
  align : Align
  font : Font
deriving Repr, DecidableEq

/-- The stretches of text in a paragraph: one, unless it is empty. -/
def Paragraph.runs (p : Paragraph) : List (String × Font) :=
  if p.text.isEmpty then [] else [(p.text, p.font)]

structure TextBox where
  frame : Frame
  anchor : VerticalAlign
  paragraphs : List Paragraph
  wraps : Bool := true
  shrinks : Bool := true
deriving Repr, DecidableEq

namespace Presentation

inductive Shape
  /-- A filled rectangle; its opacity in thousandths of a percent unless it is opaque. -/
  | rectangle (frame : Frame) (fill : Color) (opacity : Option Nat)
  | picture (frame : Frame) (format : Picture.Format)
  | text (box : TextBox)
deriving Repr, DecidableEq

structure Slide where
  background : Option Color := none
  shapes : List Shape := []
deriving Repr, DecidableEq

inductive Fault
  | undefinedLength
  | endlessLength
  | slideSize (n : Int)
  | fontSize (n : Int)
  | color (f : Color.Fault)
  | unwritable
  | download (reason : String)
  | picture (f : Picture.Fault)
deriving Repr, DecidableEq

def leastSlide : Int := 914400

def greatestSlide : Int := 51206400

def leastFont : Int := 100

def greatestFont : Int := 400000

def Fault.message : Fault → String
  | undefinedLength => "cannot convert float NaN to integer"
  | endlessLength => "cannot convert float infinity to integer"
  | slideSize n =>
    "value must be in range(" ++ toString leastSlide ++ ", " ++ toString greatestSlide ++
      ") (1-56 inches), got " ++ toString n
  | fontSize n =>
    "value must be in range " ++ toString leastFont ++ " to " ++ toString greatestFont ++
      " inclusive, got " ++ toString n
  | color f => f.message
  | unwritable =>
    "All strings must be XML compatible: Unicode or ASCII, no NULL bytes or control characters"
  | download reason => reason
  | picture f => f.message

end Presentation

structure Presentation where
  width : Int
  height : Int
  slides : List Presentation.Slide
deriving Repr, DecidableEq

namespace Presentation

/-- Refuses doubles that have no whole part. -/
def finite (x : Float) : Except Fault Float :=
  if x.isNaN then .error .undefinedLength
  else if x.isInf then .error .endlessLength
  else .ok x

def units (inches : Float) : Except Fault Int :=
  return Number.truncated (← finite (inches * 914400))

def slideSize (inches : Float) : Except Fault Int := do
  let n ← units inches
  if leastSlide ≤ n ∧ n ≤ greatestSlide then return n else throw (.slideSize n)

def frame (b : Box Float) : Except Fault Frame :=
  return ⟨← units b.x, ← units b.y, ← units b.w, ← units b.h⟩

def readColor (s : String) : Except Fault Color := (Color.read s).mapError Fault.color

def rectangle (b : Box Float) (color : String) (opacity : Option Nat) : Except Fault Shape :=
  return .rectangle (← frame b) (← readColor color) opacity

def backdropOpacity : Nat := 70000

/-- Font sizes are given in points and checked in hundredths of them. -/
def font (t : Drawing.Text Float) : Except Fault Font := do
  let n := t.fontSize * 100
  if leastFont ≤ n ∧ n ≤ greatestFont then
    return ⟨t.fontSize * 12700, t.bold, ← readColor t.color⟩
  else throw (.fontSize n)

def paragraph (t : Drawing.Text Float) (line : List Char) : Except Fault Paragraph := do
  if line.any Text.isUnwritable then throw .unwritable
  return ⟨String.ofList line, t.align, ← font t⟩

def textBox (t : Drawing.Text Float) : Except Fault Shape := do
  let f ← frame t.box
  let ps ← (Text.lines t.text.toList).mapM (paragraph t)
  return .text { frame := f, anchor := t.valign, paragraphs := ps }

def backdrop (t : Drawing.Text Float) : Except Fault (List Shape) :=
  match t.backdrop with
  | none => .ok []
  | some color =>
    if color.isEmpty then .ok [] else return [← rectangle t.box color (some backdropOpacity)]

def drawText (t : Drawing.Text Float) : Except Fault (List Shape) := do
  let behind ← backdrop t
  return behind ++ [← textBox t]

def naturalLength (pixels density : Nat) : Int :=
  Number.truncated (Float.ofNat (914400 * pixels) / Float.ofNat density)

def naturalSize (p : Picture) : Int × Int :=
  (naturalLength p.size.width p.density.horizontal, naturalLength p.size.height p.density.vertical)

/-- A side of length `n` when the other side grows from `d` to `m`. -/
def scaled (n m d : Int) : Except Fault Int :=
  return Number.nearest (← finite (Float.ofInt n * (Float.ofInt m / Float.ofInt d)))

/-- A picture in its frame. A side of no length follows from the other one and the shape of the
picture; without both it has its natural size. -/
def fitted (f : Frame) (p : Picture) : Except Fault Frame := do
  let (w, h) := naturalSize p
  if f.w = 0 ∧ f.h = 0 then return { f with w := w, h := h }
  else if f.w = 0 then return { f with w := ← scaled w f.h h }
  else if f.h = 0 then return { f with h := ← scaled h f.w w }
  else return f

/-- What some bytes add to a slide: nothing if they are no picture. -/
def placed (f : Frame) (bs : Picture.Bytes) : Except Fault (List Shape) :=
  match Picture.read bs with
  | .ok p => return [.picture (← fitted f p) p.format]
  | .error e => if e.isSilent then .ok [] else .error (.picture e)

/-- A picture as it was had: left out if it was not, or if it is none. -/
def drawPicture (p : Drawing.Picture Float) : Reply Picture.Bytes → Except Fault (List Shape)
  | .error (.nonsense reason) => .error (.download reason)
  | .error _ => .ok []
  | .ok r =>
    if r.isError then .ok []
    else do placed (← frame p.box) r.body

variable {σ : Type}

abbrev Fetcher (σ : Type) := String → StateM σ (Reply Picture.Bytes)

def draw (fetch : Fetcher σ) (s : Slide) : Drawing.Instruction Float → Attempt Fault σ Slide
  | .background color => .ofExcept do return { s with background := some (← readColor color) }
  | .shape d => .ofExcept do return { s with shapes := s.shapes ++ [← rectangle d.box d.color none] }
  | .text t => .ofExcept do return { s with shapes := s.shapes ++ (← drawText t) }
  | .picture p => do
    let reply ← Attempt.ofState (fetch p.url)
    .ofExcept do return { s with shapes := s.shapes ++ (← drawPicture p reply) }

def drawSlide (fetch : Fetcher σ) (d : Drawing.Slide Float) : Attempt Fault σ Slide :=
  d.instructions.foldlM (draw fetch) {}

def ofDrawing (fetch : Fetcher σ) (d : Drawing Float) : Attempt Fault σ Presentation := do
  let w ← .ofExcept (slideSize d.canvas.width)
  let h ← .ofExcept (slideSize d.canvas.height)
  let slides ← d.slides.mapM (drawSlide fetch)
  return ⟨w, h, slides⟩

end Presentation

end DeckPress
