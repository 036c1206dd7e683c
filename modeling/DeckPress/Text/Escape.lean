import DeckPress.Text.Blank

/-!
# Escaped text

Text that travels in a drawing instruction is one line without quotes: invisible characters are
dropped, and the backslash, the quote and three control characters are written as a backslash and
a letter.
-/
namespace DeckPress.Text

/-- Spaces and marks of no or odd width, line and paragraph separators, the byte order mark. -/
def isInvisible (c : Char) : Bool :=
  let n := c.toNat
  (0x2000 ≤ n && n ≤ 0x200F) || (0x2028 ≤ n && n ≤ 0x202F) || (0x205F ≤ n && n ≤ 0x206F) ||
    n == 0xFEFF

def escapeLetter : Char → Option Char
  | '\\' => some '\\'
  | '"' => some '"'
  | '\n' => some 'n'
  | '\r' => some 'r'
  | '\t' => some 't'
  | _ => none

def unescapeLetter : Char → Option Char
  | '\\' => some '\\'
  | '"' => some '"'
  | 'n' => some '\n'
  | 'r' => some '\r'
  | 't' => some '\t'
  | _ => none

def escapeChar (c : Char) : List Char :=
  match escapeLetter c with
  | some l => ['\\', l]
  | none => [c]

def visible (cs : List Char) : List Char := cs.filter fun c => !isInvisible c

def encode (cs : List Char) : List Char := (visible cs).flatMap escapeChar

/-- Reads escapes from left to right; a backslash before any other character stays. -/
def decode : List Char → List Char
  | '\\' :: c :: cs =>
    match unescapeLetter c with
    | some d => d :: decode cs
    | none => '\\' :: c :: decode cs
  | c :: cs => c :: decode cs
  | [] => []

/-- The form in which a text stands in a drawing instruction. -/
def sanitize (s : String) : String := String.ofList (encode s.toList)

def unescape (s : String) : String := String.ofList (decode s.toList)

theorem unescapeLetter_escapeLetter {c l : Char} (h : escapeLetter c = some l) :
    unescapeLetter l = some c := by
  unfold escapeLetter at h
  split at h <;> first | (injection h with h; subst h; rfl) | cases h

theorem decode_escapeChar_append (c : Char) (cs : List Char) :
    decode (escapeChar c ++ cs) = c :: decode cs := by
  unfold escapeChar
  split
  · next l h => simp [decode, unescapeLetter_escapeLetter h]
  · next h =>
    have hc : c ≠ '\\' := by rintro rfl; simp [escapeLetter] at h
    rw [List.singleton_append, decode]
    simp_all

theorem decode_encode (cs : List Char) : decode (encode cs) = visible cs := by
  unfold encode
  induction visible cs with
  | nil => rfl
  | cons c cs ih => simp [List.flatMap_cons, decode_escapeChar_append, ih]

end DeckPress.Text
