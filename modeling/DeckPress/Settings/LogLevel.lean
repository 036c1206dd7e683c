import DeckPress.Text.Capital
import DeckPress.Text.Quoted

/-!
# Log levels

The number of a named log level. A name that names something else about logging is refused, and
any other name stands for the default level.
-/
namespace DeckPress.LogLevel

def numbers : List (String × Nat) :=
  [("CRITICAL", 50), ("FATAL", 50), ("ERROR", 40), ("WARNING", 30), ("WARN", 30), ("INFO", 20),
    ("DEBUG", 10), ("NOTSET", 0)]

def default : Nat := 20

inductive Fault
  /-- The name stands for a text that is no level. -/
  | unknown (text : String)
  | table
deriving Repr, DecidableEq

def Fault.message : Fault → String
  | unknown text => "Unknown level: " ++ Text.quoted text
  | table => "Level not an integer or a valid string"

def number (name : String) : Except Fault Nat :=
  let n := Text.capitals name
  match numbers.lookup n with
  | some k => .ok k
  | none =>
    if n == "BASIC_FORMAT" then .error (.unknown "%(levelname)s:%(name)s:%(message)s")
    else if n == "_STYLES" then .error .table
    else .ok default

end DeckPress.LogLevel
