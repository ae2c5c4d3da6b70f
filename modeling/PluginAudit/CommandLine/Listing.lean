import PluginAudit.Document.Store
import PluginAudit.Json.Printer
import PluginAudit.Plugin.Run

/-!
# Listing reports

Reports are printed as lines, valid files on standard output and errors on standard error, with a
summary at the end; or as one JSON array on standard output.
-/

namespace PluginAudit.CommandLine

open Files

inductive Stream where
  | output | error
  deriving DecidableEq, Repr

structure Print where
  stream : Stream
  text : String
  deriving DecidableEq, Repr

namespace Print

def out (line : String) : Print := ⟨.output, line ++ "\n"⟩

def err (line : String) : Print := ⟨.error, line ++ "\n"⟩

def ok (path : Path) (note : String) : Print := out ("ok: " ++ path.toString ++ " - valid " ++ note)

def problem (path : Path) (d : Diagnostic) : Print :=
  err ("error: " ++ path.toString ++ ": " ++ d.display)

def remark (path : Path) (d : Diagnostic) : Print := err (path.toString ++ ": " ++ d.display)

/-- The counts at the end, which tell of success or failure. -/
def summary (what : String) (ok failed : Nat) : Print :=
  let line := "\n" ++ toString (ok + failed) ++ " " ++ what ++ ": " ++ toString ok ++ " ok, " ++
    toString failed ++ " failed"
  if failed == 0 then out line else err line

def json (v : Value) : Print := out (Json.pretty v)

end Print

namespace Listing

def validNote (a : Plugin.Accepted) : String :=
  a.edition.name ++ if a.wrapped then " (inside runtime wrapper)" else ""

def pluginLines (r : Plugin.FileReport) : List Print :=
  match r.verdict with
  | .valid a => [.ok r.path (validNote a)]
  | v => v.diagnostics.map fun d => if d.isError then .problem r.path d else .remark r.path d

def plugins (rs : List Plugin.FileReport) : List Print :=
  if rs.isEmpty then [.out "No JavaScript plugin files found."]
  else
    rs.flatMap pluginLines ++
      [.summary "plugins" (Plugin.validCount rs) (Plugin.failedCount rs)]

def pluginsJson (rs : List Plugin.FileReport) : List Print :=
  [.json (.array (rs.map (·.toValue)))]

def documentLines (r : Document.Report) : List Print :=
  match r.verdict with
  | .valid k => [.ok r.path (k.name ++ " document")]
  | v => v.diagnostics.map (.problem r.path)

def documents (rs : List Document.Report) : List Print :=
  rs.flatMap documentLines ++
    [.summary "documents" (Document.validCount rs) (Document.failedCount rs)]

def documentsJson (rs : List Document.Report) : List Print :=
  [.json (.array (rs.map (·.toValue)))]

end Listing

end PluginAudit.CommandLine
