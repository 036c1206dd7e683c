import DeckPress.Page.Element

/-!
# The page

A page is built anew after every action of its user, from top to bottom: a button that was pressed
acts where it stands. A reported failure is shown there, and the rest of the page follows; any
other failure ends the page. After some actions the page is built once more, and only what is
built last can be seen.
-/
namespace DeckPress.Page

structure Controls where
  schema : SlideModel
  canvas : CanvasChoice
  strict : Bool
deriving Repr, DecidableEq

namespace Controls

def ofSettings (s : Settings) : Controls := ⟨s.slideModel, s.canvas, s.isStrict⟩

def apply (c : Controls) (s : Settings) : Settings :=
  { s with
    slideModel := c.schema
    canvas := c.canvas
    imageMode := if c.strict then .strict else .lenient }

end Controls

inductive Action
  | controls (schema : Option SlideModel) (canvas : Option CanvasChoice) (strict : Option Bool)
  | generate (prompt : String)
  | edit (instruction : String)
  | version (n : Int)
  | clear
deriving Repr, DecidableEq

def Action.button? : Action → Option Button
  | controls .. => none
  | generate _ => some .generate
  | edit _ => some .edit
  | version n => some (.version n)
  | clear => some .clear

inductive Halt
  | failed (f : Failure)
  /-- The page is to be built once more. -/
  | again
deriving Repr, DecidableEq

structure Build where
  session : Session
  shown : List Element := []
  halt : Option Halt := none

namespace Build

def add (b : Build) (es : List Element) : Build := { b with shown := b.shown ++ es }

def fail (b : Build) (f : Failure) : Build :=
  match f.report? with
  | some r => b.add (Element.ofReport r)
  | none => { b with halt := some (.failed f) }

def isHalted (b : Build) : Bool := b.halt.isSome

end Build

variable {σ : Type}

def noPrompt : String := "Please provide a prompt."

def noInstruction : String := "Please provide edit instructions and ensure API Key is set."

def noKey : String := "OPENAI_API_KEY environment variable is not set."

def generate (services : Services σ) (s : Settings) (prompt : String) (b : Build) :
    StateM σ Build := do
  if Conversation.isBlank prompt then return b.add [.warning noPrompt]
  if s.modelKey.isEmpty then return b.add [.error noKey]
  let made ← (Pipeline.produce services (s.compiler services.search)
    (Conversation.generate services.model s.model s.slideModel.word b.session.turns prompt)).run
  match made with
  | .ok p =>
    return { b with session := b.session.generated p prompt }.add [.success "Generation complete!"]
  | .error f => return b.fail f

def edit (services : Services σ) (s : Settings) (d : Deck Float) (instruction : String)
    (b : Build) : StateM σ Build := do
  if Conversation.isBlank instruction || s.modelKey.isEmpty then
    return b.add [.warning noInstruction]
  let made ← (Pipeline.produce services (s.compiler services.search)
    (Conversation.edit services.model s.model s.slideModel.word b.session.turns d instruction)).run
  match made with
  | .ok p => return { b with session := b.session.edited p instruction, halt := some .again }
  | .error f => return b.fail f

/-- Another version is to be shown. It is shown also if it cannot be presented. -/
def switch (services : Services σ) (s : Settings) (i : Nat) (d : Deck Float) (b : Build) :
    StateM σ Build := do
  let b := { b with session := { b.session with shown := some i } }
  let made ← (do
    Pipeline.present services (← Pipeline.compile (s.compiler services.search) d) :
      Attempt Failure σ Presentation).run
  match made with
  | .ok p =>
    return { b with session := { b.session with download := some p }, halt := some .again }
  | .error f =>
    match f.report? with
    | some _ => return { b with halt := some .again }
    | none => return { b with halt := some (.failed f) }

def version (services : Services σ) (s : Settings) (pressed : Option Button) (i : Nat)
    (d : Deck Float) (b : Build) : StateM σ Build :=
  if b.isHalted then pure b
  else
    let button : Button := .version (i + 1)
    let b := b.add [.button button (b.session.shown == some i)]
    if pressed == some button then switch services s i d b else pure b

def versions (services : Services σ) (s : Settings) (pressed : Option Button) :
    Nat → List (Deck Float) → Build → StateM σ Build
  | _, [], b => pure b
  | i, d :: ds, b => do versions services s pressed (i + 1) ds (← version services s pressed i d b)

/-- The buttons of all versions, if there are several. -/
def historyPart (services : Services σ) (s : Settings) (pressed : Option Button) (b : Build) :
    StateM σ Build :=
  if b.isHalted || b.session.history.length ≤ 1 then pure b
  else versions services s pressed 0 b.session.history (b.add [.line "#### History"])

def deckPart (services : Services σ) (s : Settings) (a : Option Action) (d : Deck Float)
    (b : Build) : StateM σ Build := do
  let b := b.add (preview d ++ [.button .edit false])
  let b ←
    match a with
    | some (.edit instruction) => edit services s d instruction b
    | _ => pure b
  historyPart services s (a.bind Action.button?) b

/-- The page from top to bottom, with an action that presses one of its buttons. -/
def mainPart (services : Services σ) (s : Settings) (a : Option Action) (session : Session) :
    StateM σ Build := do
  let b : Build := { session := session, shown := [.button .generate false] }
  let b ←
    match a with
    | some (.generate prompt) => generate services s prompt b
    | _ => pure b
  if b.isHalted then return b
  match b.session.current with
  | some d => deckPart services s a d b
  | none => return b

def build (services : Services σ) (s : Settings) (a : Option Action) (session : Session) :
    StateM σ Build := do
  if a == some .clear then return { session := {}, halt := some .again }
  return (← mainPart services s a session).add [.button .clear false]

def settle (services : Services σ) (s : Settings) (a : Option Action) (session : Session) :
    StateM σ Build := do
  let b ← build services s a session
  if b.halt == some .again then build services s none b.session else return b

structure State where
  session : Session
  controls : Controls
  shown : List Element
deriving Repr

structure View where
  shown : List Element
  failure : Option Failure
  /-- A page without settings has no session. -/
  session : Option Session
deriving Repr

def ofBuild (c : Controls) (b : Build) : State × View :=
  let failure :=
    match b.halt with
    | some (.failed f) => some f
    | _ => none
  (⟨b.session, c, b.shown⟩, ⟨b.shown, failure, some b.session⟩)

def start (services : Services σ) (s : Settings) : StateM σ (State × View) := do
  let c := Controls.ofSettings s
  return ofBuild c (← settle services (c.apply s) none {})

def broken (r : Validation.Refusal) : View := ⟨[], some (.settings r), none⟩

/-- The button is there and can be pressed. -/
def State.offers (p : State) (b : Button) : Bool := p.shown.contains (.button b false)

/-- The page after an action, or the button that is not there for it. -/
def act (services : Services σ) (s : Settings) (p : State) (a : Action) :
    StateM σ (Except Button (State × View)) := do
  match a with
  | .controls schema canvas strict =>
    let c := p.controls
    let c : Controls := ⟨schema.getD c.schema, canvas.getD c.canvas, strict.getD c.strict⟩
    return .ok (ofBuild c (← settle services (c.apply s) none p.session))
  | a =>
    match a.button? with
    | none => return .ok (ofBuild p.controls (← settle services (p.controls.apply s) none p.session))
    | some b =>
      if p.offers b then
        return .ok (ofBuild p.controls
          (← settle services (p.controls.apply s) (some a) p.session))
      else return .error b

end DeckPress.Page
