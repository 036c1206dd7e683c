import DeckPress.Text.Capital

/-!
# Themes

The colors of a slide come from a palette, one entry after the other; its decoration tells the
first slide, the last one, and those between them apart.
-/
namespace DeckPress

inductive Decoration
  | headerBar
  | footerBar
  | accentLine
deriving Repr, DecidableEq

namespace Decoration

def words : List (String × Decoration) :=
  [("header-bar", headerBar), ("footer-bar", footerBar), ("accent-line", accentLine)]

def word : Decoration → String
  | headerBar => "header-bar"
  | footerBar => "footer-bar"
  | accentLine => "accent-line"

/-- The first slide has a bar above, the last one a bar below; a lone slide is the first. -/
def ofPosition (index total : Nat) : Decoration :=
  if index = 0 then headerBar else if index + 1 = total then footerBar else accentLine

end Decoration

/-- The look of one slide. Colors are six hexadecimal digits. -/
structure Theme where
  background : String
  text : String
  accent : String
  decoration : Decoration
deriving Repr, DecidableEq

structure Swatch where
  background : String
  text : String
  accent : String
deriving Repr, DecidableEq

/-- The entries that slides take in turn; there is at least one. -/
structure Palette where
  swatches : List Swatch
  /-- The background behind images in place of white. -/
  imageSafe : String
  nonempty : swatches ≠ []

namespace Palette

def white : String := "FFFFFF"

def defaultImageSafe : String := "F2F2F2"

def standard : Palette where
  swatches :=
    [⟨"FFFFFF", "363636", "2E86AB"⟩, ⟨"F7F3E9", "2B2D42", "EF8354"⟩,
      ⟨"1B263B", "F1FAEE", "E0A458"⟩, ⟨"FFFFFF", "1D3557", "E63946"⟩,
      ⟨"EAF4F4", "253237", "5C946E"⟩]
  imageSafe := defaultImageSafe
  nonempty := by simp

inductive Fault
  | empty
  | outOfRange (index total : Int)
deriving Repr, DecidableEq

def Fault.message : Fault → String
  | empty => "palette must contain at least one entry"
  | outOfRange index total =>
    "slide_index " ++ toString index ++ " out of range for " ++ toString total ++ " slides"

def ofSwatches (swatches : List Swatch) (imageSafe : String) : Except Fault Palette :=
  if h : swatches = [] then .error .empty else .ok ⟨swatches, imageSafe, h⟩

def swatch (p : Palette) (index : Nat) : Swatch :=
  p.swatches.get ⟨index % p.swatches.length, Nat.mod_lt _ (List.length_pos_iff.2 p.nonempty)⟩

def background (p : Palette) (index : Nat) (hasImage : Bool) : String :=
  let own := (p.swatch index).background
  if hasImage && Text.capitals own == white then p.imageSafe else own

def theme (p : Palette) (index total : Nat) (hasImage : Bool) : Theme :=
  let s := p.swatch index
  ⟨p.background index hasImage, s.text, s.accent, .ofPosition index total⟩

/-- The look of a slide at any position, if it is one of a deck. -/
def theme? (p : Palette) (index total : Int) (hasImage : Bool) : Except Fault Theme :=
  if 0 ≤ index ∧ index < total then .ok (p.theme index.toNat total.toNat hasImage)
  else .error (.outOfRange index total)

end Palette

end DeckPress
