import DeckPress.Deck.Need
import DeckPress.Deck.Reader
import DeckPress.Drawing
import DeckPress.Image.Search
import DeckPress.Layout

/-!
# Compiling decks

A deck becomes a drawing, slide by slide. First the images of a slide are looked up, then its
instructions are put together: background, decoration, images, texts.
-/
namespace DeckPress

open Validation

structure Compiler (α σ : Type) where
  canvas : Canvas α
  /-- An image that is not found is an error. -/
  strict : Bool := false
  fallbackUrl : String := Image.defaultFallback
  palette : Palette := .standard
  resolver : Option (Image.Resolver σ) := none

namespace Compiler

inductive Fault
  | mismatch (m : Deck.Mismatch)
  /-- The data is no deck, and it cannot be quoted either. -/
  | unquotable (o : Json.Obstacle)
  | emptyDeck
  | image (slide : Nat) (need : Need) (reason : String)
  | search (f : Image.Search.Fault)
  | refused (r : Refusal)
deriving Repr, DecidableEq

def Fault.ofRejection : Deck.Rejection → Fault
  | .mismatch m => .mismatch m
  | .unquotable o => .unquotable o

section Assembly

variable {α : Type} [Scalar α]

def margin : α := Scalar.decimal 5 1

def titleTop : α := Scalar.decimal 4 1

def titleHeight : α := Scalar.whole 1

def titleSize : Int := 28

def bodyTop : α := Scalar.decimal 16 1

def barHeight : α := Scalar.decimal 25 2

def lineWidth : α := Scalar.decimal 15 1

def lineHeight : α := Scalar.decimal 6 2

def imageShare : α := Scalar.decimal 4 1

def imageGap : α := Scalar.decimal 3 1

def titleOnlyHeight : α := Scalar.decimal 25 1

/-- The box of a decoration. On a slide with a title the line lies below it, on any other in the
margin below. -/
def decorationBox (c : Canvas α) (titled : Bool) : Decoration → Box α
  | .headerBar => ⟨Scalar.zero, Scalar.zero, c.width, barHeight⟩
  | .footerBar => ⟨Scalar.zero, c.height - barHeight, c.width, barHeight⟩
  | .accentLine =>
    if titled then
      ⟨margin, titleTop + titleHeight + Scalar.decimal 5 2, lineWidth, lineHeight⟩
    else ⟨margin, c.height - margin / Scalar.whole 2, lineWidth, lineHeight⟩

def ground (c : Canvas α) (t : Theme) (titled : Bool) : List (Drawing.Instruction α) :=
  [.background t.background,
    .shape ⟨t.decoration, decorationBox c titled t.decoration, t.accent⟩]

def regionBox (c : Canvas α) (r : Region α) : Box α :=
  c.fit ⟨r.x.onExtent c.width, r.y.onExtent c.height, r.w.onExtent c.width, r.h.onExtent c.height⟩

/-- A text on its slide; it gets a backdrop where it lies on an image. -/
def drawText (c : Canvas α) (t : Theme) (images : List (Box α)) (v : VerticalAlign)
    (r : TextRegion α) : Drawing.Text α :=
  let box := regionBox c r.region
  { text := r.text
    box := box
    fontSize := r.fontSize
    bold := r.bold
    color := t.text
    align := r.align
    valign := v
    backdrop := if images.any box.overlaps then some t.background else none }

def drawTexts (c : Canvas α) (t : Theme) (images : List (Box α)) (v : VerticalAlign)
    (rs : List (TextRegion α)) : List (Drawing.Instruction α) :=
  rs.map fun r => .text (drawText c t images v r)

def drawImage (box : Box α) (r : Image.Reference) : Drawing.Instruction α :=
  .picture ⟨r.url, box, r.isFallback⟩

def escaped (r : TextRegion α) : TextRegion α := { r with text := Text.sanitize r.text }

def assembleGeneric (c : Canvas α) (p : Palette) (index total : Nat)
    (objects : List (SlideObject α)) (refs : List Image.Reference) :
    List (Drawing.Instruction α) :=
  let boxes := (objects.filterMap SlideObject.image?).map fun r => regionBox c r.region
  let t := p.theme index total !boxes.isEmpty
  ground c t false ++ List.zipWith drawImage boxes refs ++
    drawTexts c t boxes .top ((objects.filterMap SlideObject.text?).map escaped)

structure Parts (α : Type) where
  image : Option (Box α)
  titles : List (TextRegion α)
  content : List (TextRegion α)
  valign : VerticalAlign

def bodyBox (c : Canvas α) : Box α :=
  ⟨margin, bodyTop, c.width - Scalar.whole 2 * margin, c.height - bodyTop - margin - barHeight⟩

/-- The space of the only text of a slide, in the middle of its height. -/
def middleBox (c : Canvas α) : Box α :=
  ⟨margin, (c.height - titleOnlyHeight) / Scalar.whole 2, c.width - Scalar.whole 2 * margin,
    titleOnlyHeight⟩

def imageBox (body : Box α) : Box α :=
  let w := body.w * imageShare
  ⟨body.right - w, body.y, w, body.h⟩

def besideImage (body : Box α) : Box α :=
  { body with w := body.w - body.w * imageShare - imageGap }

def titleDraft (c : Canvas α) (title : String) : Draft α :=
  ⟨title, ⟨margin, titleTop, c.width - Scalar.whole 2 * margin, titleHeight⟩, titleSize, true,
    .left⟩

/-- The only text of a slide: its title, and its content below if it has any. -/
def loneText (s : TemplatedSlide) : String :=
  if s.content.isEmpty then s.title else s.title ++ "\n" ++ s.content

def titleOnlyParts (c : Canvas α) (s : TemplatedSlide) : Except Refusal (Parts α) := do
  let content ← Layout.titleOnly.regions (loneText s) (← Bounds.ofBox (middleBox c))
  return ⟨s.imageQuery.map fun _ => c.box, [], content, .middle⟩

def contentBounds (body : Bounds α) (hasImage : Bool) : Except Refusal (Bounds α) :=
  if hasImage then Bounds.ofBox (besideImage body.box) else .ok body

def titledParts (c : Canvas α) (l : Layout) (s : TemplatedSlide) (body : Bounds α) :
    Except Refusal (Parts α) := do
  let bounds ← contentBounds body s.imageQuery.isSome
  let title ← (titleDraft c s.title).region
  let content ← l.regions s.content bounds
  return ⟨s.imageQuery.map fun _ => imageBox body.box, [title], content, .top⟩

def parts (c : Canvas α) (s : TemplatedSlide) : Except Refusal (Parts α) := do
  let body ← Bounds.ofBox (bodyBox c)
  match Layout.ofOption s.layout with
  | .titleOnly => titleOnlyParts c s
  | l => titledParts c l s body

def assembleTemplated (c : Canvas α) (p : Palette) (index total : Nat) (s : TemplatedSlide)
    (refs : List Image.Reference) : Except Refusal (List (Drawing.Instruction α)) := do
  let t := p.theme index total s.imageQuery.isSome
  let ps ← parts c s
  let boxes := ps.image.toList
  return ground c t true ++ List.zipWith drawImage boxes refs ++
    drawTexts c t boxes .top ps.titles ++ drawTexts c t boxes ps.valign ps.content

def assemble (c : Canvas α) (p : Palette) (index total : Nat) (s : Slide α)
    (refs : List Image.Reference) : Except Refusal (List (Drawing.Instruction α)) :=
  match s with
  | .generic objects => .ok (assembleGeneric c p index total objects refs)
  | .templated s => assembleTemplated c p index total s refs

end Assembly

variable {α σ : Type}

def unresolved (c : Compiler α σ) (slide : Nat) (n : Need) (reason : String) :
    Except Fault Image.Reference :=
  if c.strict then .error (.image slide n reason) else .ok ⟨c.fallbackUrl, true⟩

def noResolver : String := "no image resolver configured"

def ofAnswer (c : Compiler α σ) (slide : Nat) (n : Need) :
    Image.Answer → Except Fault Image.Reference
  | .found r => .ok r
  | a => c.unresolved slide n a.reason

/-- The image for a need: the address that it names, or what the resolver finds. -/
def resolve (c : Compiler α σ) (slide : Nat) (n : Need) : Attempt Fault σ Image.Reference :=
  if n.isDirect then pure ⟨Text.trimmed n.query, false⟩
  else
    match c.resolver with
    | none => .ofExcept (c.unresolved slide n noResolver)
    | some r => do
      let answer ← (r (n.request slide)).adapt Fault.search
      .ofExcept (c.ofAnswer slide n answer)

variable [Scalar α]

/-- A slide: its images are looked up in order, then it is put together. -/
def compileSlide (c : Compiler α σ) (topic : Option String) (total index : Nat) (s : Slide α) :
    Attempt Fault σ (Drawing.Slide α) := do
  let refs ← (s.needs topic).mapM (c.resolve index)
  let is ← .ofExcept ((assemble c.canvas c.palette index total s refs).mapError Fault.refused)
  return ⟨index, is⟩

def compileSlides (c : Compiler α σ) (topic : Option String) (total : Nat) :
    Nat → List (Slide α) → Attempt Fault σ (List (Drawing.Slide α))
  | _, [] => pure []
  | index, s :: ss => do
    let d ← c.compileSlide topic total index s
    let ds ← c.compileSlides topic total (index + 1) ss
    return d :: ds

def compile (c : Compiler α σ) (d : Deck α) : Attempt Fault σ (Drawing α) :=
  if d.slides.isEmpty then .ofExcept (.error .emptyDeck)
  else do
    let slides ← c.compileSlides d.topic d.slides.length 0 d.slides
    return ⟨c.canvas, slides⟩

def compileData (c : Compiler Float σ) (data : Json) : Attempt Fault σ (Drawing Float) := do
  let d ← .ofExcept ((Deck.parse data).mapError Fault.ofRejection)
  c.compile d

end Compiler

end DeckPress
