import DeckPress.Validation

/-!
# Fields of records

A field is given under its key or under its plain name; the key wins if both are there. Issues
are placed at the name that was used.
-/
namespace DeckPress.Validation

/-- A field of a record: the key that stands for it, and another name by which it may be given. -/
structure Field where
  key : String
  name : String
deriving Repr, DecidableEq

namespace Field

def plain (key : String) : Field := ⟨key, key⟩

variable {α : Type}

def find? (f : Field) (es : Json.Entries) : Option (String × Json) :=
  match es.get? f.key with
  | some v => some (f.key, v)
  | none => (es.get? f.name).map fun v => (f.name, v)

def required (f : Field) (es : Json.Entries) (check : Json → Checked α) : Checked α :=
  match f.find? es with
  | some (name, v) => (check v).within (.key name)
  | none => (Checked.fail .missing).within (.key f.key)

def optional (f : Field) (es : Json.Entries) (default : α) (check : Json → Checked α) :
    Checked α :=
  match f.find? es with
  | some (name, v) => (check v).within (.key name)
  | none => .valid default

def used (fs : List Field) (es : Json.Entries) : List String :=
  fs.filterMap fun f => (f.find? es).map (·.1)

end Field

/-- The entries have no key beside those that give the fields. -/
def noOthers (fs : List Field) (es : Json.Entries) : Checked Unit :=
  match es.filter fun e => !(Field.used fs es).contains e.1 with
  | [] => .valid ()
  | others => .invalid (others.map fun e => ⟨[.key e.1], .unknownKey⟩)

def record {α : Type} (o : Origin) (name : String) (check : Json.Entries → Checked α) :
    Json → Checked α
  | .obj es => check es
  | _ => .fail (.notRecord name o)

end DeckPress.Validation
