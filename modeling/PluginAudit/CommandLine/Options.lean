import PluginAudit.Document.Store
import PluginAudit.Plugin.Discovery

/-!
# Options of the command

What a run is asked to do, and the arguments by which it is told.
-/

namespace PluginAudit.CommandLine

open Files

def programName : String := "plugcheck"

inductive OutputFormat where
  | text | json
  deriving DecidableEq, Repr

namespace OutputFormat

def name : OutputFormat → String
  | text => "text"
  | json => "json"

def all : List OutputFormat := [text, json]

def ofName? (s : String) : Option OutputFormat := all.find? (·.name == s)

theorem ofName?_name (f : OutputFormat) : ofName? f.name = some f := by
  cases f <;> decide

end OutputFormat

structure Options where
  root : String := "."
  pattern : String := Plugin.defaultPattern
  format : OutputFormat := .text
  /-- Documents to validate; if there are any, plugins are not looked for. -/
  configs : List String := []
  schemaDir : String := Document.defaultSchemaDir
  about : Bool := false
  deriving DecidableEq, Repr

inductive Argument where
  | root | pattern | format | config | schemaDir | about | help | version
  deriving DecidableEq, Repr

namespace Argument

/-- The word after two hyphens; the root is told by its place alone. -/
def longName? : Argument → Option String
  | root => none
  | pattern => some "pattern"
  | format => some "format"
  | config => some "config"
  | schemaDir => some "schema-dir"
  | about => some "about"
  | help => some "help"
  | version => some "version"

def shortName? : Argument → Option Char
  | help => some 'h'
  | version => some 'V'
  | _ => none

def valueName? : Argument → Option String
  | root => some "ROOT"
  | pattern => some "PATTERN"
  | format => some "FORMAT"
  | config => some "FILE"
  | schemaDir => some "DIR"
  | _ => none

def takesValue (a : Argument) : Bool := a.valueName?.isSome

/-- Several values may follow, and the argument may be repeated. -/
def takesMany (a : Argument) : Bool := a == config

def placeholder (a : Argument) : String :=
  match a.valueName? with
  | some v => " <" ++ v ++ ">" ++ if a.takesMany then "..." else ""
  | none => ""

def display (a : Argument) : String :=
  match a.longName? with
  | some n => "--" ++ n ++ a.placeholder
  | none => "[ROOT]"

/-- Arguments with names, in the order of the help text. -/
def named : List Argument := [pattern, format, config, schemaDir, about, help, version]

def ofLongName? (s : String) : Option Argument := named.find? (·.longName? == some s)

def ofShortName? (c : Char) : Option Argument := named.find? (·.shortName? == some c)

theorem ofLongName?_longName {a : Argument} {s : String} (h : a.longName? = some s) :
    ofLongName? s = some a := by
  cases a <;> simp [longName?] at h <;> subst h <;> decide

end Argument

end PluginAudit.CommandLine
