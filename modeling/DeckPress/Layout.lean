import DeckPress.Deck
import DeckPress.Geometry
import DeckPress.Text.Escape

/-!
# Layouts

A layout places the content of a templated slide inside bounds: in one region, or in two columns
with a gutter between them. Its texts are escaped, once.
-/
namespace DeckPress

open Text Validation

inductive Layout
  | title
  | mainPoint
  | twoContent
  | comparison
  | titleOnly
  | default
deriving Repr, DecidableEq

namespace Layout

def words : List (String × Layout) :=
  [("title", title), ("mainPoint", mainPoint), ("twoContent", twoContent),
    ("comparison", comparison), ("titleOnly", titleOnly), ("default", default)]

def word : Layout → String
  | title => "title"
  | mainPoint => "mainPoint"
  | twoContent => "twoContent"
  | comparison => "comparison"
  | titleOnly => "titleOnly"
  | default => "default"

/-- The layout that a word names; any other word names the default one. -/
def ofWord (s : String) : Layout := (words.lookup (trimmed s)).getD default

def ofOption : Option String → Layout
  | some s => ofWord s
  | none => default

/-- The layout that a value names. What is vain names the default one, and what is neither vain
nor a text names none. -/
def ofJson? (v : Json) : Option Layout :=
  if v.isVain then some default
  else
    match v with
    | .str s => some (ofWord s)
    | _ => none

/-- What stands before and after the first bar, without blanks at the ends. -/
def splitPair (s : String) : String × String :=
  let (left, rest) := s.toList.span (· != '|')
  (String.ofList (trim left), String.ofList (trim (rest.drop 1)))

end Layout

structure Draft (α : Type) where
  text : String
  box : Box α
  fontSize : Int
  bold : Bool := false
  align : Align := .left
deriving Repr, DecidableEq

namespace Draft

variable {α : Type} [Scalar α]

def lengthIssue (key : String) : Except Length.Fault (Length α) → List Issue
  | .ok _ => []
  | .error f => [⟨[.key key], .length f⟩]

/-- The escaped text in its region; lengths that no region admits are refused. -/
def region (d : Draft α) : Except Refusal (TextRegion α) :=
  let x := Length.checkInches false d.box.x
  let y := Length.checkInches false d.box.y
  let w := Length.checkInches true d.box.w
  let h := Length.checkInches true d.box.h
  match x, y, w, h with
  | .ok x, .ok y, .ok w, .ok h => .ok ⟨⟨x, y, w, h⟩, sanitize d.text, d.fontSize, d.bold, d.align⟩
  | _, _, _, _ =>
    .error ⟨"TextRegion",
      lengthIssue "x" x ++ lengthIssue "y" y ++ lengthIssue "w" w ++ lengthIssue "h" h⟩

end Draft

namespace Layout

variable {α : Type} [Scalar α]

def bodySize : Int := 18

def mainPointSize : Int := 24

def labelSize : Int := 22

def titleOnlySize : Int := 40

/-- The gutter between two columns: four tenths of an inch, in narrow bounds a fifth of them. -/
def gutter (b : Box α) : α := Scalar.least (Scalar.decimal 4 1) (b.w / Scalar.whole 5)

def columnWidth (b : Box α) : α := (b.w - gutter b) / Scalar.whole 2

def leftColumn (b : Box α) : Box α := { b with w := columnWidth b }

def rightColumn (b : Box α) : Box α :=
  { b with x := b.x + columnWidth b + gutter b, w := columnWidth b }

/-- The height of a label: six tenths of an inch, in low bounds a third of them. -/
def labelHeight (b : Box α) : α := Scalar.least (Scalar.decimal 6 1) (b.h / Scalar.whole 3)

def upperPart (h : α) (b : Box α) : Box α := { b with h := h }

def lowerPart (h : α) (b : Box α) : Box α := { b with y := b.y + h, h := b.h - h }

def drafts (l : Layout) (content : String) (b : Box α) : List (Draft α) :=
  match l with
  | mainPoint => [⟨content, b, mainPointSize, true, .left⟩]
  | titleOnly => [⟨content, b, titleOnlySize, true, .center⟩]
  | twoContent =>
    let (left, right) := splitPair content
    [⟨left, leftColumn b, bodySize, false, .left⟩, ⟨right, rightColumn b, bodySize, false, .left⟩]
  | comparison =>
    let (before, after) := splitPair content
    let label := upperPart (labelHeight b)
    let body := lowerPart (labelHeight b)
    [⟨"Before", label (leftColumn b), labelSize, true, .left⟩,
      ⟨"After", label (rightColumn b), labelSize, true, .left⟩,
      ⟨before, body (leftColumn b), bodySize, false, .left⟩,
      ⟨after, body (rightColumn b), bodySize, false, .left⟩]
  | title => [⟨content, b, bodySize, false, .left⟩]
  | default => [⟨content, b, bodySize, false, .left⟩]

def regions (l : Layout) (content : String) (b : Bounds α) :
    Except Refusal (List (TextRegion α)) :=
  (l.drafts content b.box).mapM Draft.region

end Layout

end DeckPress
