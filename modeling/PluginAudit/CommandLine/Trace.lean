import PluginAudit.CommandLine.Log
import PluginAudit.Document.Store
import PluginAudit.Plugin.Discovery
import PluginAudit.Plugin.Run

/-!
# What a run tells on its way

Events of finding and validating files, in the order in which they come about.
-/

namespace PluginAudit.CommandLine

open Files

namespace Trace

def discoveryPart : String := "plugcheck::discovery"

def hitEvent? (fs : FileSystem) : Hit → Option LogEvent
  | .found p =>
    if fs.isRegularFile p then none
    else some ⟨.debug, discoveryPart, "skipping non-regular file", [("path", p.toString)]⟩
  | .unlisted p _ =>
    some ⟨.warn, discoveryPart, "cannot read discovery entry", [("path", p.toString)]⟩

def ofDiscovery (fs : FileSystem) (root pattern : List Char) : List LogEvent :=
  match search fs (Plugin.fullPattern root pattern) with
  | .ok hits => hits.filterMap (hitEvent? fs)
  | .error _ => []

def categoryLabel : Plugin.Category → String
  | .domExecuting => "DomExecuting"
  | .apiCalling => "ApiCalling"
  | .unclassified => "Unclassified"

def classified (h : Plugin.Header) : LogEvent :=
  ⟨.debug, "plugcheck::validator", "classified plugin",
    [("category", categoryLabel h.category), ("version", h.edition.name)]⟩

/-- Entry points are counted by their written shape where the text is no script. -/
def ofScan (text : List Char) : List LogEvent :=
  match Script.read true text with
  | .ok _ => []
  | .error e =>
    [⟨.debug, "plugcheck::structure", "source does not parse; counting entry points by pattern",
      [("errors", toString e.faults.length)]⟩]

def ofAcceptance (text : List Char) (edition : Script.Edition) : List LogEvent :=
  match Plugin.acceptBare text edition with
  | .ok _ => []
  | .error p =>
    if Plugin.hasReturnLine text then
      [⟨.debug, "plugcheck::parser", "bare parse failed on top-level return; retrying wrapped",
        [("first", p.display)]⟩]
    else []

def ofPluginText (text : List Char) : List LogEvent :=
  let h := Plugin.classify text
  classified h ::
    if h.category.singleEntryPoint then ofScan text else ofAcceptance text h.edition

def ofPlugin (fs : FileSystem) (path : Path) : List LogEvent :=
  match fs.readText path with
  | .ok text => ofPluginText text
  | .error e =>
    [⟨.warn, "plugcheck::validator", "cannot read plugin",
      [("path", path.toString), ("error", e.report)]⟩]

def ofDocument (fs : FileSystem) (path : Path) : List LogEvent :=
  match Document.load fs path with
  | .error e =>
    [⟨.warn, "plugcheck::schema", "cannot load document",
      [("path", path.toString), ("error", e.message)]⟩]
  | .ok v =>
    match Document.Kind.detect v with
    | none => []
    | some k => [⟨.debug, "plugcheck::schema", "detected schema type", [("kind", k.name)]⟩]

end Trace

end PluginAudit.CommandLine
