import PluginAudit.CommandLine.Arguments
import PluginAudit.CommandLine.Help
import PluginAudit.CommandLine.Listing
import PluginAudit.CommandLine.Trace

/-!
# Running the command

What a command line prints, and its exit code: 0 if all files are valid, 1 if some are not, and 2
if the command line or the pattern cannot be used.
-/

namespace PluginAudit.CommandLine

open Files

structure Outcome where
  code : Nat
  /-- In the order of printing. -/
  prints : List Print
  deriving DecidableEq, Repr

namespace Outcome

def textOf (s : Stream) (o : Outcome) : String :=
  String.join ((o.prints.filter (·.stream == s)).map (·.text))

def output (o : Outcome) : String := o.textOf .output

def error (o : Outcome) : String := o.textOf .error

def say (text : String) : Outcome := ⟨0, [⟨.output, text⟩]⟩

end Outcome

def exitCode (success : Bool) : Nat := if success then 0 else 1

def logged (filter : LogFilter) (events : List LogEvent) : List Print :=
  (events.filter filter.allows).map fun e => .err e.line

def runPlugins (fs : FileSystem) (filter : LogFilter) (o : Options) : Outcome :=
  let root := o.root.toList
  let pattern := o.pattern.toList
  let searching := logged filter (Trace.ofDiscovery fs root pattern)
  match Plugin.discover fs root pattern with
  | .error e => ⟨2, searching ++ [.err ("error: " ++ Plugin.patternMessage pattern e)]⟩
  | .ok d =>
    let reports := Plugin.validateFiles fs d.files
    let listing := match o.format with
      | .text => Listing.plugins reports
      | .json => Listing.pluginsJson reports
    ⟨exitCode (Plugin.isSuccess reports),
      searching ++ d.warnings.map (fun w => .err w.diagnostic.display) ++
        logged filter (d.files.flatMap (Trace.ofPlugin fs)) ++ listing⟩

def runDocuments (fs : FileSystem) (filter : LogFilter) (o : Options) : Outcome :=
  let paths := o.configs.map Path.ofString
  let reports := Document.validateDocuments fs paths (Path.ofString o.schemaDir)
  let listing := match o.format with
    | .text => Listing.documents reports
    | .json => Listing.documentsJson reports
  ⟨exitCode (Document.isSuccess reports),
    logged filter (paths.flatMap (Trace.ofDocument fs)) ++ listing⟩

def runOptions (fs : FileSystem) (filter : LogFilter) (o : Options) : Outcome :=
  if o.about then .say Help.about
  else if o.configs.isEmpty then runPlugins fs filter o
  else runDocuments fs filter o

def run (fs : FileSystem) (filter : LogFilter) (args : List String) : Outcome :=
  match readArguments args with
  | .error e => ⟨2, [⟨.error, e.message⟩]⟩
  | .ok (.help long) => .say (if long then Help.long else Help.short)
  | .ok .version => .say Help.version
  | .ok (.run o) => runOptions fs filter o

end PluginAudit.CommandLine
