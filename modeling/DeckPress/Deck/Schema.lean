import DeckPress.Deck.Reader

/-!
# Schemas of replies

The JSON schema that tells a model which slides to answer with. It describes what
`Deck.checkPayload` admits, every field by its key.
-/
namespace DeckPress.Deck.Schema

def typed (name : String) : Json := .obj [("type", .str name)]

def titled (title : String) (more : Json.Entries) : Json := .obj (("title", .str title) :: more)

def either (a b : String) : Json.Entries := [("anyOf", .arr [typed a, typed b])]

def reference (name : String) : Json := .obj [("$ref", .str ("#/$defs/" ++ name))]

def array (items : Json) : Json.Entries := [("items", items), ("type", .str "array")]

/-- A record with the given properties and no others. -/
def closed (name : String) (properties : Json.Entries) (required : List String) : Json :=
  titled name [("additionalProperties", .bool false), ("properties", .obj properties),
    ("required", .arr (required.map Json.str)), ("type", .str "object")]

def position (title : String) : Json :=
  titled title (("default", .float 0) :: either "number" "string")

def size (title : String) : Json := titled title (either "number" "string")

def region : Json.Entries :=
  [("x", position "X"), ("y", position "Y"), ("w", size "W"), ("h", size "H")]

def tag (word : String) : Json :=
  titled "Type" [("const", .str word), ("default", .str word), ("type", .str "string")]

def text (title : String) : Json := titled title [("type", .str "string")]

def optionalText (title : String) : Json :=
  titled title [("default", .str ""), ("type", .str "string")]

def nullableText (title : String) : Json :=
  titled title (("default", .null) :: either "string" "null")

def textRegion : Json :=
  closed "TextRegion"
    (region ++
      [("type", tag "text"), ("text", optionalText "Text"),
        ("fontSize", titled "Fontsize"
          [("default", .int TextRegion.defaultFontSize), ("exclusiveMinimum", .int 0),
            ("type", .str "integer")]),
        ("bold", titled "Bold" [("default", .bool false), ("type", .str "boolean")]),
        ("align", titled "Align"
          [("default", .str Align.left.word),
            ("enum", .arr (Align.words.map fun w => .str w.1)), ("type", .str "string")])])
    ["w", "h"]

def imageRegion : Json :=
  closed "ImageRegion" (region ++ [("type", tag "image"), ("urlOrQuery", optionalText "Urlorquery")])
    ["w", "h"]

def slideObject : Json :=
  .obj [("discriminator", .obj
      [("mapping", .obj
        [("image", .str "#/$defs/ImageRegion"), ("text", .str "#/$defs/TextRegion")]),
        ("propertyName", .str tagField.key)]),
    ("oneOf", .arr [reference "TextRegion", reference "ImageRegion"])]

def genericSlide : Json :=
  closed (Slide.modelName .generic) [("objects", titled "Objects" (array slideObject))] ["objects"]

def templatedSlide : Json :=
  closed (Slide.modelName .templated)
    [("title", text "Title"), ("content", optionalText "Content"),
      ("layout", nullableText "Layout"), ("imageQuery", nullableText "Imagequery")]
    ["title"]

def definitions : SlideModel → Json.Entries
  | .templated => [(Slide.modelName .templated, templatedSlide)]
  | .generic =>
    [(Slide.modelName .generic, genericSlide), ("ImageRegion", imageRegion),
      ("TextRegion", textRegion)]

def description : SlideModel → String
  | .templated => "Response format requested from the LLM for title/content/layout decks."
  | .generic => "Response format requested from the LLM for free-form object decks."

end Schema

def schema (m : SlideModel) : Json :=
  Schema.titled (payloadName m)
    [("$defs", .obj (Schema.definitions m)), ("description", .str (Schema.description m)),
      ("properties", .obj
        [("slides", Schema.titled "Slides" (Schema.array (Schema.reference (Slide.modelName m))))]),
      ("required", .arr [.str "slides"]), ("type", .str "object")]

end DeckPress.Deck
