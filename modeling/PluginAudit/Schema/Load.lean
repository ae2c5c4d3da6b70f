import PluginAudit.Schema.Standard

/-!
# Using values as schemas

`Schema.compile` tells the draft of a schema, checks the schema itself and reads it.
-/

namespace PluginAudit.Schema

/-- The draft that a schema names; the latest if it names none. -/
def draftOf (v : Value) : Except Fault Draft :=
  match text? v "$schema" with
  | none => .ok .year2020
  | some uri =>
    match Draft.ofUri? (withoutHash uri) with
    | some d => .ok d
    | none => .error (.unknownDraft (withoutHash uri))

def firstViolation (d : Draft) (v : Value) : Except Fault (Option Violation) := do
  match Standard.compiled.lookup d with
  | some (.ok c) => return (c.violations v).head?
  | some (.error f) => throw f
  | none => return none

def defaultUri : String := "json-schema:///"

def sourceOf (d : Draft) (v : Value) : Source :=
  let uri := withoutHash (baseWithin d defaultUri v)
  ⟨uri, d, v⟩

def compile (v : Value) : Except Fault Compiled := do
  let d ← draftOf v
  if let some e ← firstViolation d v then throw (.violation e)
  let s := sourceOf d v
  let own := Library.ofSources [s]
  let library : Library :=
    ⟨own.sources ++ Standard.library.sources, own.entries ++ Standard.library.entries⟩
  readRoot library s

end PluginAudit.Schema
