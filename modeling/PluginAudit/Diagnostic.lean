import PluginAudit.Document.Value
import PluginAudit.Text.Position

/-!
# Diagnostics

What is told about a plugin or document: a code, a message, perhaps a place and advice.
-/

namespace PluginAudit

open Text

inductive Severity where
  | error | warning | info
  deriving DecidableEq, Repr

def Severity.name : Severity → String
  | error => "error"
  | warning => "warning"
  | info => "info"

structure Diagnostic where
  severity : Severity
  code : String
  message : String
  line : Option Nat := none
  column : Option Nat := none
  suggestion : Option String := none
  deriving DecidableEq, Repr

namespace Diagnostic

def unreadable : String := "E000"

def grammar : String := "E001"

def languageLevel : String := "E002"

def missingEntryPoint : String := "E003"

def severalEntryPoints : String := "E004"

def undetected : String := "E005"

def violation : String := "E006"

/-- The schema is missing or wrong. -/
def schemaUnavailable : String := "E007"

def unlisted : String := "W001"

/-- The text was accepted in its wrapper. -/
def acceptedWrapped : String := "I001"

def error (code message : String) : Diagnostic := { severity := .error, code, message }

def at_ (d : Diagnostic) (p : Option Position) : Diagnostic :=
  { d with line := p.map (·.line), column := p.map (·.column) }

def isError (d : Diagnostic) : Bool := d.severity == .error

def severityText : Severity → String
  | .error => ""
  | .warning => "warning: "
  | .info => "info: "

/-- The place is shown only if it is complete. -/
def placeText : Option Nat → Option Nat → String
  | some line, some column => " (" ++ toString line ++ ":" ++ toString column ++ ")"
  | _, _ => ""

def display (d : Diagnostic) : String :=
  severityText d.severity ++ "[" ++ d.code ++ "] " ++ d.message ++ placeText d.line d.column

/-- A member of an object, left out if there is no value. -/
def optional (key : String) (v : Option Value) : List (String × Value) :=
  (v.map fun v => (key, v)).toList

def toValue (d : Diagnostic) : Value :=
  .ofMembers ([("severity", .string d.severity.name), ("code", .string d.code),
    ("message", .string d.message)] ++ optional "line" (d.line.map .ofNat) ++
    optional "column" (d.column.map .ofNat) ++ optional "suggestion" (d.suggestion.map .string))

end Diagnostic

end PluginAudit
