import PluginAudit.Files.Pattern
import PluginAudit.Files.Tree

/-!
# Searching files by pattern

A pattern is cut at its slashes, and each part is matched against the names in the directories
that the parts before it led to. Paths are found in the order of their names.
-/

namespace PluginAudit.Files

/-- A path that a search is at, and whether it takes it for a directory. What a listing says of its
entries is not asked again. -/
structure Spot where
  path : Path
  isDirectory : Bool
  deriving DecidableEq, Repr

def FileSystem.spot (fs : FileSystem) (path : Path) : Spot := ⟨path, fs.isDirectory path⟩

/-- A piece of a search to do: a path that is found, a path whose last name has yet to fit the
first of some patterns, or a directory that cannot be listed. -/
inductive Lead where
  | found (spot : Spot)
  | candidate (spot : Spot) (patterns : List (List Glob))
  | unlisted (path : Path) (error : FileError)

inductive Hit where
  | found (path : Path)
  | unlisted (path : Path) (error : FileError)
  deriving DecidableEq, Repr

def Hit.path : Hit → Path
  | found p => p
  | unlisted p _ => p

namespace Search

/-- A name in a directory; nothing leads from the working directory to itself. -/
def childPath (dir : Path) (name : Name) : Path :=
  if dir.isHere then [name] else dir.join name

/-- The spot of an entry. Links are followed. -/
def entrySpot (fs : FileSystem) (dir : Path) (name : Name) (n : Node) : Spot :=
  if n.isLink then fs.spot (childPath dir name) else ⟨childPath dir name, n.isDir⟩

def isDots (name : Name) : Bool := name == ['.'] || name == ['.', '.']

/-- The special names that a pattern with wildcards fits, if its first character is a dot. -/
def fittingDots (pattern : List Glob) : List Name :=
  match pattern with
  | .char '.' :: _ => [['.', '.'], ['.']].filter (Glob.fits pattern)
  | _ => []

def leads (fs : FileSystem) : List (List Glob) → Spot → List Lead
  | [], _ => []
  | pattern :: rest, dir =>
    let onward (p : Path) : List Lead :=
      if rest.isEmpty then [.found (fs.spot p)] else leads fs rest (fs.spot p)
    match Glob.literal? pattern with
    | some name =>
      let next := childPath dir.path name
      if if isDots name then dir.isDirectory else fs.exists? next then onward next else []
    | none =>
      if dir.isDirectory then
        match fs.list dir.path with
        | .error e => [.unlisted dir.path e]
        | .ok entries =>
          (fittingDots pattern).flatMap (fun name => onward (dir.path.join name)) ++
            entries.map fun e => .candidate (entrySpot fs dir.path e.1 e.2) (pattern :: rest)
      else []

/-- Drops repetitions of `**` at the start. -/
def collapse : List (List Glob) → List (List Glob)
  | [.directories] :: [.directories] :: rest => collapse ([.directories] :: rest)
  | patterns => patterns

/-- What a lead comes to. `n` bounds the depth of directories. -/
def follow (fs : FileSystem) (mustBeDir : Bool) : Nat → Lead → List Hit
  | 0, _ => []
  | _ + 1, .found s => if mustBeDir && !s.isDirectory then [] else [.found s.path]
  | _ + 1, .unlisted p e => [.unlisted p e]
  | n + 1, .candidate s patterns =>
    let named (patterns : List (List Glob)) : List Hit :=
      match patterns, s.path.fileName? with
      | pattern :: rest, some name =>
        if !Glob.fits pattern name then []
        else if rest.isEmpty then
          if mustBeDir && !s.isDirectory then [] else [.found s.path]
        else (leads fs rest s).flatMap (follow fs mustBeDir n)
      | _, _ => []
    match collapse patterns with
    | [.directories] :: rest =>
      let below := if s.isDirectory then
          (leads fs ([.directories] :: rest) s).flatMap (follow fs mustBeDir n)
        else []
      if rest.isEmpty then
        if s.isDirectory then .found s.path :: below else []
      else named rest ++ below
    | patterns => named patterns

/-- The parts of a pattern between slashes, without the empty part after a last one. -/
def parts (text : List Char) : List (List Char) :=
  let all := Path.split text
  if all.getLast? == some [] then all.dropLast else all

/-- The patterns behind a slash at the start. A slash that is all of a pattern leaves the empty one
for what it stands behind. -/
def behindSlash (patterns : List (List Glob)) : List (List Glob) :=
  if patterns.length ≤ 1 then patterns else patterns.tail

end Search

/-- What fits a pattern, from the root if the pattern begins with a slash, else from the working
directory. -/
def search (fs : FileSystem) (pattern : List Char) : Except PatternError (List Hit) := do
  let _ ← Glob.read pattern
  let patterns ← (Search.parts pattern).mapM Glob.read
  let mustBeDir := pattern.getLast? == some '/'
  let leads :=
    if (Path.split pattern).isAbsolute then
      Search.leads fs (Search.behindSlash patterns) (fs.spot Path.top)
    else Search.leads fs patterns (fs.spot Path.here)
  return leads.flatMap (Search.follow fs mustBeDir pathLimit)

end PluginAudit.Files
