import PluginAudit.Document.Verdict

/-!
# Schemas in a directory

A store compiles the schema of a kind when it is wanted. A compiled schema is kept; a failure is
not, so the file is read again the next time.
-/

namespace PluginAudit.Document

open Files Schema

def defaultSchemaDir : String := "schemas"

def readSchema (fs : FileSystem) (dir : Path) (k : Kind) : Except SchemaError Compiled := do
  let path := dir.join k.fileName.toList
  let text ← (fs.readText path).mapError (.unreadable path)
  let v ← (Json.read text).mapError .json
  (compile v).mapError (.unusable path)

structure Store where
  dir : Path
  compiled : List (Kind × Compiled)

namespace Store

def empty (dir : Path) : Store := ⟨dir, []⟩

def insert (k : Kind) (c : Compiled) (s : Store) : Store :=
  { s with compiled := (k, c) :: s.compiled }

/-- The schema of a kind, and the store after it. -/
def schema (fs : FileSystem) (k : Kind) (s : Store) : Except SchemaError Compiled × Store :=
  match s.compiled.lookup k with
  | some c => (.ok c, s)
  | none =>
    match readSchema fs s.dir k with
    | .ok c => (.ok c, s.insert k c)
    | .error e => (.error e, s)

def judge (k : Kind) (v : Value) : Except SchemaError Compiled → Verdict
  | .ok c => .ofViolations k (c.violations v)
  | .error e => .schemaUnavailable k e

def validate (fs : FileSystem) (v : Value) (s : Store) : Verdict × Store :=
  match Kind.detect v with
  | none => (.undetected, s)
  | some k =>
    let (c, s) := s.schema fs k
    (judge k v c, s)

def validateFile (fs : FileSystem) (path : Path) (s : Store) : Verdict × Store :=
  match load fs path with
  | .ok v => s.validate fs v
  | .error e => (.unreadable e, s)

theorem schema_of_lookup {fs : FileSystem} {k : Kind} {s : Store} {c : Compiled}
    (h : s.compiled.lookup k = some c) : s.schema fs k = (.ok c, s) := by
  simp [schema, h]

theorem schema_of_error {fs : FileSystem} {k : Kind} {s : Store} {e : SchemaError}
    (hk : s.compiled.lookup k = none) (h : readSchema fs s.dir k = .error e) :
    s.schema fs k = (.error e, s) := by
  simp [schema, hk, h]

theorem schema_of_ok {fs : FileSystem} {k : Kind} {s : Store} {c : Compiled}
    (hk : s.compiled.lookup k = none) (h : readSchema fs s.dir k = .ok c) :
    s.schema fs k = (.ok c, s.insert k c) := by
  simp [schema, hk, h]

theorem lookup_insert_self (k : Kind) (c : Compiled) (s : Store) :
    (s.insert k c).compiled.lookup k = some c := by
  simp [insert]

theorem dir_schema (fs : FileSystem) (k : Kind) (s : Store) : (s.schema fs k).2.dir = s.dir := by
  simp only [schema]
  split
  · rfl
  · split <;> rfl

end Store

structure Report where
  path : Path
  verdict : Verdict

namespace Report

def isValid (r : Report) : Bool := r.verdict.isValid

def toValue (r : Report) : Value :=
  .ofMembers [("path", .string r.path.toString), ("verdict", r.verdict.toValue),
    ("diagnostics", .array (r.verdict.diagnostics.map Diagnostic.toValue))]

end Report

def validCount (rs : List Report) : Nat := rs.countP (·.isValid)

def failedCount (rs : List Report) : Nat := rs.length - validCount rs

def isSuccess (rs : List Report) : Bool := rs.all (·.isValid)

def validateAll (fs : FileSystem) : List Path → Store → List Report
  | [], _ => []
  | p :: ps, s =>
    let (v, s) := s.validateFile fs p
    ⟨p, v⟩ :: validateAll fs ps s

def validateDocuments (fs : FileSystem) (paths : List Path) (dir : Path) : List Report :=
  validateAll fs paths (.empty dir)

end PluginAudit.Document
