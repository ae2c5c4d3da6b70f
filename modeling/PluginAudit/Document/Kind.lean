import PluginAudit.Document.Value

/-!
# Kinds of documents

The keys of a document tell its kind, and the kind says which schema it has to fit.
-/

namespace PluginAudit.Document

inductive Kind where
  | ruleset | config | event | agent | source
  deriving DecidableEq, Repr

namespace Kind

def all : List Kind := [ruleset, config, event, agent, source]

def name : Kind → String
  | ruleset => "ruleset"
  | config => "config"
  | event => "event"
  | agent => "agent"
  | source => "source"

def fileName : Kind → String
  | ruleset => "ruleset-schema.json"
  | config => "crowler-config-schema.json"
  | event => "crowler-event-schema.json"
  | agent => "crowler-agent-schema.json"
  | source => "source-config-schema.json"

def fits (v : Value) : Kind → Bool
  | ruleset => v.has "ruleset_name"
  | config => v.has "database" || v.has "crawler"
  | event => v.has "event_type" && v.has "details"
  | agent => v.has "jobs"
  | source => v.has "source_name"

def detect (v : Value) : Option Kind := all.find? (·.fits v)

theorem mem_all (k : Kind) : k ∈ all := by cases k <;> decide

theorem detect_eq_none_iff {v : Value} : detect v = none ↔ ∀ k : Kind, k.fits v = false := by
  simp only [detect, List.find?_eq_none, Bool.not_eq_true]
  exact ⟨fun h k => h k (mem_all k), fun h k _ => h k⟩

end Kind

end PluginAudit.Document
