import PluginAudit.Files.Tree
import PluginAudit.Json.Reader
import PluginAudit.Yaml.Document

/-!
# Loading documents

The end of a file's name says which format it is read in.
-/

namespace PluginAudit.Document

open Files

inductive Format where
  | json | yaml
  deriving DecidableEq, Repr

/-- The format of a file, whatever the case of the end of its name. -/
def Format.ofPath? (path : Path) : Option Format := do
  let name ← path.fileName?
  let ending ← Path.extension? name
  let ending := ending.map Char.toLower
  if ending == "json".toList then some .json
  else if ending == "yaml".toList || ending == "yml".toList then some .yaml
  else none

inductive LoadError where
  | unsupported (path : Path)
  | unreadable (e : FileError)
  | json (e : Json.ReadError)
  | yaml (e : Yaml.ReadError)
  deriving DecidableEq, Repr

def jsonMessage (e : Json.ReadError) : String := "JSON error: " ++ e.message

def LoadError.message : LoadError → String
  | unsupported path => "unsupported document format: " ++ path.toString
  | unreadable e => e.report
  | json e => jsonMessage e
  | yaml e => "YAML error: " ++ e.message

def Format.read (f : Format) (text : List Char) : Except LoadError Value :=
  match f with
  | json => (Json.read text).mapError .json
  | yaml => (Yaml.read text).mapError .yaml

def load (fs : FileSystem) (path : Path) : Except LoadError Value := do
  match Format.ofPath? path with
  | none => throw (.unsupported path)
  | some f => f.read (← (fs.readText path).mapError .unreadable)

end PluginAudit.Document
