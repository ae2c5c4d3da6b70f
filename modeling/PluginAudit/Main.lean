import PluginAudit.CommandLine.Run

/-!
# The command

Reads the working directory and runs a command line on it.
-/

namespace PluginAudit.CommandLine

open Files

/-- A link that leads nowhere, since no name has a NUL. -/
def deadLink : Node := .link (Path.ofString "/\x00")

/-- What an action fails with. -/
def failure? {α : Type} (action : IO α) : IO (Option FileError) := do
  match ← action.toBaseIO with
  | .ok _ => return none
  | .error (.permissionDenied ..) => return some .permissionDenied
  | .error _ => return some .inputOutput

def linkNode (e : IO.FS.DirEntry) : IO Node := do
  match ← (IO.FS.realPath e.path).toBaseIO with
  | .ok target => return .link (Path.ofString target.toString)
  | .error _ => return deadLink

def fileNode (e : IO.FS.DirEntry) : IO Node := do
  match ← (IO.FS.readBinFile e.path).toBaseIO with
  | .ok bytes => return .file bytes
  | .error _ => return .file .empty { reading := ← failure? (IO.FS.readBinFile e.path) }

mutual

partial def entryNode (e : IO.FS.DirEntry) : IO Node := do
  match ← e.path.symlinkMetadata.toBaseIO with
  | .error _ => return deadLink
  | .ok m =>
    match m.type with
    | .dir =>
      let access : Access :=
        { reading := ← failure? e.path.readDir, passing := ← failure? (e.path / ".").metadata }
      dirNode access ((← e.path.readDir.toBaseIO).toOption.getD #[])
    | .file => fileNode e
    | .symlink => linkNode e
    | .other => return deadLink

partial def dirNode (access : Access) (entries : Array IO.FS.DirEntry) : IO Node := do
  let nodes ← entries.toList.mapM fun e => return (e.fileName.toList, ← entryNode e)
  return .dir (nodes.foldl (fun all (name, n) => Node.setEntry name n all) []) access

end

/-- The working directory where it is, with nothing else but the directories on the way to it. -/
def readFiles : IO FileSystem := do
  let here ← IO.FS.realPath (← IO.currentDir)
  let place := (Path.ofString here.toString).filter (· ≠ [])
  return ⟨place.foldr (fun name n => .dir [(name, n)]) (← dirNode {} (← here.readDir)), place⟩

/-- The variable that holds the log filter. -/
def logVariable : String := "PLUGCHECK_LOG"

def readFilter : IO LogFilter := do
  match ← IO.getEnv logVariable with
  | some text => return .read text
  | none => return .warnings

def Print.emit (p : Print) : IO Unit :=
  match p.stream with
  | .output => IO.print p.text
  | .error => IO.eprint p.text

end PluginAudit.CommandLine

open PluginAudit.CommandLine in
def main (args : List String) : IO UInt32 := do
  let outcome := run (← readFiles) (← readFilter) args
  outcome.prints.forM Print.emit
  return outcome.code.toUInt32
