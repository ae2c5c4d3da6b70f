import PluginAudit.CommandLine.Options

/-!
# Help texts

What the command says about itself: a short help with a line for each argument, a long help with a
paragraph for each, its version, and where it comes from.
-/

namespace PluginAudit.CommandLine

namespace Argument

def summary : Argument → String
  | root => "Root directory to search for plugins"
  | pattern => "Glob pattern, relative to the root, selecting plugin files"
  | format => "Output format"
  | config => "Validate CROWler JSON/YAML documents instead of plugins"
  | schemaDir => "Directory holding the JSON schemas used by --config"
  | about => "Show project information"
  | help => "Print help"
  | version => "Print version"

def defaultValue? : Argument → Option String
  | root => some ({} : Options).root
  | pattern => some ({} : Options).pattern
  | format => some ({} : Options).format.name
  | schemaDir => some ({} : Options).schemaDir
  | _ => none

def heading (a : Argument) : String :=
  match a.longName?, a.shortName? with
  | none, _ => "  " ++ a.display
  | _, some c => "  -" ++ String.singleton c ++ ", " ++ a.display
  | _, none => "      " ++ a.display

end Argument

def OutputFormat.summary : OutputFormat → String
  | text => "Human-readable text output (default)"
  | json => "JSON array of per-file reports"

namespace Help

def title : String := "JavaScript crawler plugin validator\n\nUsage: plugcheck [OPTIONS] [ROOT]\n\n"

def summaryText (long : Bool) (a : Argument) : String :=
  a.summary ++
    if a == .help then if long then " (see a summary with '-h')" else " (see more with '--help')"
    else ""

def defaultText (a : Argument) : Option String :=
  a.defaultValue?.map fun v => "[default: " ++ v ++ "]"

def valuesText (a : Argument) : Option String :=
  if a == .format then
    some ("[possible values: " ++ ", ".intercalate (OutputFormat.all.map (·.name)) ++ "]")
  else none

def padTo (width : Nat) (s : String) : String :=
  s ++ String.ofList (List.replicate (width - s.length) ' ')

def shortLines (as : List Argument) : String :=
  let width := (as.map fun a => a.heading.length).foldl max 0 + 2
  String.join <| as.map fun a =>
    padTo width a.heading ++
      " ".intercalate (summaryText false a :: (defaultText a).toList ++ (valuesText a).toList) ++ "\n"

def short : String :=
  title ++ "Arguments:\n" ++ shortLines [.root] ++ "\nOptions:\n" ++ shortLines Argument.named

def indent : String := "          "

def valueLines (a : Argument) : String :=
  if a == .format then
    "\n" ++ indent ++ "Possible values:\n" ++
      String.join (OutputFormat.all.map fun f =>
        indent ++ "- " ++ f.name ++ ": " ++ f.summary ++ "\n")
  else ""

def paragraph (a : Argument) : String :=
  a.heading ++ "\n" ++ indent ++ summaryText true a ++ "\n" ++ valueLines a ++
    match defaultText a with
    | some d => indent ++ "\n" ++ indent ++ d ++ "\n"
    | none => ""

def long : String :=
  title ++ "Arguments:\n" ++ paragraph .root ++ "\nOptions:\n" ++
    "\n".intercalate (Argument.named.map paragraph)

def versionNumber : String := "0.1.0"

def version : String := programName ++ " " ++ versionNumber ++ "\n"

def about : String :=
  "plugcheck: JavaScript Plugin Validator\n" ++
  "├─ version:    " ++ versionNumber ++ "\n" ++
  "├─ author:     pzaino\n" ++
  "├─ source:     https://github.com/pzaino/thecrowler\n" ++
  "└─ licence:    Apache-2.0 https://www.apache.org/licenses/LICENSE-2.0\n"

end Help

end PluginAudit.CommandLine
