import PluginAudit.Files.Tree
import PluginAudit.Plugin.Verdict

/-!
# Validating plugin files
-/

namespace PluginAudit.Plugin

open Files

structure FileReport where
  path : Path
  /-- None if the file cannot be read. -/
  header : Option Header
  verdict : Verdict
  deriving DecidableEq, Repr

def validateFile (fs : FileSystem) (path : Path) : FileReport :=
  match fs.readText path with
  | .error e => ⟨path, none, .unreadable e.report⟩
  | .ok text =>
    let r := validate text
    ⟨path, some r.header, r.verdict⟩

def validateFiles (fs : FileSystem) (paths : List Path) : List FileReport :=
  paths.map (validateFile fs)

namespace FileReport

def isValid (r : FileReport) : Bool := r.verdict.isValid

def toValue (r : FileReport) : Value :=
  .ofMembers [("path", .string r.path.toString),
    ("header", (r.header.map Header.toValue).getD .null),
    ("verdict", r.verdict.toValue),
    ("diagnostics", .array (r.verdict.diagnostics.map Diagnostic.toValue))]

end FileReport

def validCount (rs : List FileReport) : Nat := rs.countP (·.isValid)

def failedCount (rs : List FileReport) : Nat := rs.length - validCount rs

def isSuccess (rs : List FileReport) : Bool := rs.all (·.isValid)

theorem isSuccess_iff_failedCount {rs : List FileReport} :
    isSuccess rs = true ↔ failedCount rs = 0 := by
  have h : validCount rs ≤ rs.length := List.countP_le_length
  rw [isSuccess, List.all_eq_true, failedCount, Nat.sub_eq_zero_iff_le]
  constructor
  · intro hall
    exact Nat.le_of_eq (List.countP_eq_length.2 hall).symm
  · intro hle
    exact List.countP_eq_length.1 (Nat.le_antisymm h hle)

end PluginAudit.Plugin
