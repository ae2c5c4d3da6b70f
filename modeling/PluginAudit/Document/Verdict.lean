import PluginAudit.Diagnostic
import PluginAudit.Document.Kind
import PluginAudit.Document.Load
import PluginAudit.Schema.Load

/-!
# Verdicts on documents
-/

namespace PluginAudit.Document

open Files Schema

inductive SchemaError where
  | unreadable (path : Path) (e : FileError)
  | json (e : Json.ReadError)
  | unusable (path : Path) (f : Fault)

def schemaMessage (path : Path) (text : String) : String :=
  "invalid schema " ++ path.toString ++ ": " ++ text

def SchemaError.message : SchemaError → String
  | unreadable path e => schemaMessage path e.message
  | json e => jsonMessage e
  | unusable path f => schemaMessage path f.message

inductive Verdict where
  | valid (k : Kind)
  | invalid (k : Kind) (vs : List Violation)
  | undetected
  | schemaUnavailable (k : Kind) (e : SchemaError)
  | unreadable (e : LoadError)

namespace Verdict

def isValid : Verdict → Bool
  | valid _ => true
  | _ => false

def ofViolations (k : Kind) : List Violation → Verdict
  | [] => valid k
  | vs => invalid k vs

def violationDiagnostic (k : Kind) (v : Violation) : Diagnostic :=
  .error Diagnostic.violation (k.name ++ " schema: " ++ v.display)

def undetectedAdvice : String :=
  "Expected one of: ruleset_name, database, crawler, event_type with details, jobs, source_name"

def diagnostics : Verdict → List Diagnostic
  | valid _ => []
  | invalid k vs => vs.map (violationDiagnostic k)
  | undetected =>
    [{ Diagnostic.error Diagnostic.undetected "cannot determine schema type from top-level keys" with
        suggestion := some undetectedAdvice }]
  | schemaUnavailable _ e => [.error Diagnostic.schemaUnavailable e.message]
  | unreadable e => [.error Diagnostic.unreadable e.message]

def violationValue (v : Violation) : Value :=
  .ofMembers [("pointer", .string v.pointer), ("message", .string v.message)]

def toValue (v : Verdict) : Value :=
  .ofMembers <| match v with
  | valid k => [("status", .string "valid"), ("kind", .string k.name)]
  | invalid k vs =>
    [("status", .string "invalid"), ("kind", .string k.name),
      ("violations", .array (vs.map violationValue))]
  | undetected => [("status", .string "undetected")]
  | schemaUnavailable k e =>
    [("status", .string "schema_unavailable"), ("kind", .string k.name),
      ("message", .string e.message)]
  | unreadable e => [("status", .string "unreadable"), ("message", .string e.message)]

end Verdict

end PluginAudit.Document
