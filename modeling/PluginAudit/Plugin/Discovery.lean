import PluginAudit.Diagnostic
import PluginAudit.Files.Search

/-!
# Finding plugins

Plugins are the regular files below a root directory whose paths fit a pattern.
-/

namespace PluginAudit.Plugin

open Files

def defaultPattern : String := "plugins/**/*.js"

structure Warning where
  path : String
  message : String
  deriving DecidableEq, Repr

def Warning.diagnostic (w : Warning) : Diagnostic :=
  { severity := .warning, code := Diagnostic.unlisted, message := w.path ++ ": " ++ w.message }

structure Discovery where
  /-- Sorted by components. -/
  files : List Path
  /-- What fits the pattern and is no regular file. -/
  skipped : List Path
  warnings : List Warning
  deriving DecidableEq, Repr

/-- The pattern with the root in front, which stands for itself. -/
def fullPattern (root pattern : List Char) : List Char :=
  Glob.escape root ++ '/' :: pattern.dropWhile (· == '/')

def foundPath? : Hit → Option Path
  | .found p => some p
  | .unlisted .. => none

def warning? : Hit → Option Warning
  | .found _ => none
  | .unlisted p e =>
    some ⟨p.toString, "cannot read directory entry: " ++ e.message⟩

def discover (fs : FileSystem) (root pattern : List Char) : Except PatternError Discovery := do
  let hits ← search fs (fullPattern root pattern)
  let (files, skipped) := (hits.filterMap foundPath?).partition fs.isRegularFile
  return ⟨files.mergeSort Path.le, skipped, hits.filterMap warning?⟩

def patternMessage (pattern : List Char) (e : PatternError) : String :=
  "invalid plugin pattern '" ++ String.ofList pattern ++ "': " ++ e.message

end PluginAudit.Plugin
