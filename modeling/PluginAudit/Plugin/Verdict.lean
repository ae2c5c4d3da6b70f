import PluginAudit.Diagnostic
import PluginAudit.Plugin.Acceptance
import PluginAudit.Plugin.EntryPoint

/-!
# Verdicts on plugins

A plugin is classified by its header. One that runs in pages needs exactly one entry point and is
read in its wrapper; all others are read as they stand. The first problem decides.
-/

namespace PluginAudit.Plugin

open Script

inductive Verdict where
  | valid (a : Accepted)
  | syntaxInvalid (p : SyntaxProblem)
  | structuralInvalid (p : EntryProblem)
  | unreadable (message : String)
  deriving DecidableEq, Repr

namespace Verdict

def isValid : Verdict → Bool
  | valid _ => true
  | _ => false

def ofAttempt : Except SyntaxProblem Accepted → Verdict
  | .ok a => valid a
  | .error p => syntaxInvalid p

def entryAdvice : EntryProblem → String × String
  | .missing => (Diagnostic.missingEntryPoint,
      "Wrap the plugin body in: return (function (win) \x7b ... \x7d)(window);")
  | .several _ => (Diagnostic.severalEntryPoints,
      "Merge the entry points into a single return-IIFE")

def diagnostics : Verdict → List Diagnostic
  | valid ⟨_, false⟩ => []
  | valid ⟨e, true⟩ =>
    [{ severity := .info
       code := Diagnostic.acceptedWrapped
       message := "valid " ++ e.name ++ " when wrapped in the runtime entry function" }]
  | syntaxInvalid p =>
    let code := if p.cause.isGrammar then Diagnostic.grammar else Diagnostic.languageLevel
    [(Diagnostic.error code p.cause.message).at_ p.position]
  | structuralInvalid p =>
    let (code, advice) := entryAdvice p
    [{ Diagnostic.error code p.message with suggestion := some advice }]
  | unreadable message => [.error Diagnostic.unreadable message]

def causeName (c : SyntaxCause) : String :=
  if c.isGrammar then "grammar" else "language_level"

def problemMembers : EntryProblem → List (String × Value)
  | .missing => [("problem", .string "missing_entry_point")]
  | .several n => [("problem", .string "multiple_entry_points"), ("count", .ofNat n)]

def toValue (v : Verdict) : Value :=
  .ofMembers <| match v with
  | valid a =>
    [("status", .string "valid"), ("version", .string a.edition.name),
      ("wrapped", .bool a.wrapped)]
  | syntaxInvalid p =>
    [("status", .string "syntax_invalid"), ("kind", .string (causeName p.cause)),
      ("message", .string p.cause.message)] ++
      Diagnostic.optional "line" (p.position.map (.ofNat ·.line)) ++
      Diagnostic.optional "column" (p.position.map (.ofNat ·.column))
  | structuralInvalid p =>
    ("status", .string "structural_invalid") :: ("message", .string p.message) :: problemMembers p
  | unreadable message => [("status", .string "unreadable"), ("message", .string message)]

end Verdict

structure Report where
  header : Header
  verdict : Verdict
  deriving DecidableEq, Repr

def judge (header : Header) (text : List Char) : Verdict :=
  if header.category.singleEntryPoint then
    match (scanEntryPoints text).enforce with
    | .error p => .structuralInvalid p
    | .ok _ => .ofAttempt (acceptWrapped text header.edition)
  else .ofAttempt (accept text header.edition)

def validate (text : List Char) : Report :=
  let header := classify text
  ⟨header, judge header text⟩

def Category.name : Category → String
  | domExecuting => "dom_executing"
  | apiCalling => "api_calling"
  | unclassified => "unclassified"

def Header.toValue (h : Header) : Value :=
  .ofMembers ([("category", .string h.category.name), ("version", .string h.edition.name)] ++
    Diagnostic.optional "type" (h.declaredType.map .string) ++
    Diagnostic.optional "name" (h.name.map .string) ++
    Diagnostic.optional "description" (h.description.map .string))

end PluginAudit.Plugin
