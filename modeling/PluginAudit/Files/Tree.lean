import PluginAudit.Files.Path
import PluginAudit.Text.Bytes

/-!
# Files

Directories, files and symbolic links as a value, and looking up paths in it.
-/

namespace PluginAudit.Files

open Text

inductive FileError where
  | notFound | permissionDenied | inputOutput | notDirectory | isDirectory | nameTooLong
  | tooManyLinks | notText | nulCharacter
  deriving DecidableEq, Repr

def FileError.message : FileError → String
  | notFound => "No such file or directory (os error 2)"
  | inputOutput => "Input/output error (os error 5)"
  | permissionDenied => "Permission denied (os error 13)"
  | notDirectory => "Not a directory (os error 20)"
  | isDirectory => "Is a directory (os error 21)"
  | nameTooLong => "File name too long (os error 36)"
  | tooManyLinks => "Too many levels of symbolic links (os error 40)"
  | notText => "stream did not contain valid UTF-8"
  | nulCharacter => "file name contained an unexpected NUL byte"

/-- The message of an error that ends the reading of a file. -/
def FileError.report (e : FileError) : String := "IO error: " ++ e.message

/-- What keeps a file or directory from being read, and a directory from being passed on the way to
what is in it. -/
structure Access where
  reading : Option FileError := none
  passing : Option FileError := none
  deriving DecidableEq, Repr

inductive Node where
  | file (bytes : ByteArray) (access : Access := {})
  | dir (entries : List (Name × Node)) (access : Access := {})
  | link (target : Path)

instance : Inhabited Node := ⟨.dir []⟩

namespace Node

def isDir : Node → Bool
  | dir .. => true
  | _ => false

def isFile : Node → Bool
  | file .. => true
  | _ => false

def isLink : Node → Bool
  | link _ => true
  | _ => false

def at? : Node → Path → Option Node
  | n, [] => some n
  | dir entries _, p :: ps => (entries.lookup p).bind (at? · ps)
  | _, _ :: _ => none

/-- What is in a directory. -/
def listed : Node → Except FileError (List (Name × Node))
  | dir entries ⟨none, _⟩ => .ok entries
  | dir _ ⟨some e, _⟩ => .error e
  | _ => .error .notDirectory

/-- The text of a file. A directory can be opened if it can be read, but has no text. -/
def text : Node → Except FileError (List Char)
  | file bytes ⟨none, _⟩ =>
    match String.fromUTF8? bytes with
    | some s => .ok s.toList
    | none => .error .notText
  | file _ ⟨some e, _⟩ | dir _ ⟨some e, _⟩ => .error e
  | _ => .error .isDirectory

/-- Sets an entry; entries stay sorted by name. -/
def setEntry (name : Name) (n : Node) : List (Name × Node) → List (Name × Node)
  | [] => [(name, n)]
  | (m, o) :: rest =>
    if name < m then (name, n) :: (m, o) :: rest
    else if name == m then (name, n) :: rest
    else (m, o) :: setEntry name n rest

def put (new : Node) : Path → Node → Node
  | [], _ => new
  | p :: ps, dir entries access =>
    dir (setEntry p (put new ps ((entries.lookup p).getD (dir []))) entries) access
  | p :: ps, _ => dir [(p, put new ps (dir []))]

def remove : Path → Node → Node
  | [p], dir entries access => dir (entries.filter (·.1 != p)) access
  | p :: ps, dir entries access =>
    match entries.lookup p with
    | some n => dir (setEntry p (remove ps n) entries) access
    | none => dir entries access
  | _, n => n

end Node

/-- All files, and the directory in which relative paths begin. -/
structure FileSystem where
  root : Node
  working : Path

/-- The most links that may be followed for one path. -/
def linkLimit : Nat := 40

def nameLimit : Nat := 255

/-- A path has fewer bytes than this. -/
def pathLimit : Nat := 4096

namespace FileSystem

def ofWorkingDirectory (n : Node) : FileSystem := ⟨.dir [("work".toList, n)], ["work".toList]⟩

/-- Walks from a directory along the pieces of a path, to the place of what it names. A link at the
end is followed only if `followLast`, and one to an absolute path from the root. -/
def walk (root : Node) (followLast : Bool) (links : Nat) (current : Path) (pieces : Path) :
    Except FileError Path :=
  match pieces with
  | [] => .ok current
  | p :: ps =>
    match root.at? current with
    | some (.dir entries access) =>
      if p.isEmpty then walk root followLast links current ps
      else
        match access.passing with
        | some e => .error e
        | none =>
          if p == ['.'] then walk root followLast links current ps
          else if p == ['.', '.'] then walk root followLast links current.dropLast ps
          else if nameLimit < byteLength p then .error .nameTooLong
          else
            match entries.lookup p with
            | none => .error .notFound
            | some (.link target) =>
              if ps.isEmpty && !followLast then .ok (current ++ [p])
              else
                match links with
                | 0 => .error .tooManyLinks
                | n + 1 => walk root followLast n (target.origin current) (target ++ ps)
            | some _ => walk root followLast links (current ++ [p]) ps
    | _ => .error .notDirectory
termination_by (links, pieces.length)

/-- The place of what a path names, however long the path is. -/
def place (fs : FileSystem) (followLast : Bool) (path : Path) : Except FileError Path :=
  walk fs.root followLast linkLimit (path.origin fs.working) path

def resolve (fs : FileSystem) (followLast : Bool) (path : Path) : Except FileError Path :=
  if path.text.contains '\x00' then .error .nulCharacter
  else if pathLimit ≤ byteLength path.text then .error .nameTooLong
  else if path.text.isEmpty then .error .notFound
  else fs.place followLast path

def status (fs : FileSystem) (followLast : Bool) (path : Path) : Except FileError Node := do
  let place ← fs.resolve followLast path
  match fs.root.at? place with
  | some n => return n
  | none => throw .notFound

def isDirectory (fs : FileSystem) (path : Path) : Bool :=
  match fs.status true path with
  | .ok n => n.isDir
  | .error _ => false

def isRegularFile (fs : FileSystem) (path : Path) : Bool :=
  match fs.status false path with
  | .ok n => n.isFile
  | .error _ => false

/-- Something is there, be it a link to nothing. -/
def exists? (fs : FileSystem) (path : Path) : Bool :=
  (fs.status true path).toBool || (fs.status false path).toBool

def list (fs : FileSystem) (path : Path) : Except FileError (List (Name × Node)) :=
  (fs.status true path).bind Node.listed

def readText (fs : FileSystem) (path : Path) : Except FileError (List Char) :=
  (fs.status true path).bind Node.text

/-- The place at which something written to a path comes to stand. -/
def placeToWrite (fs : FileSystem) (path : Path) : Except FileError Path := do
  match fs.resolve true path with
  | .ok place => return place
  | .error _ =>
    match path.getLast? with
    | none => throw .notFound
    | some name =>
      let dir : Path := path.dropLast
      let parent ← if dir.text.isEmpty then pure (path.origin fs.working) else fs.resolve true dir
      return parent ++ [name]

def makeDirs (fs : FileSystem) (path : Path) : FileSystem :=
  (path.foldl (fun (fs, done) p =>
    let here := done ++ [p]
    if p.isEmpty || fs.exists? here then (fs, here)
    else
      match fs.placeToWrite here with
      | .ok place => ({ fs with root := Node.put (.dir []) place fs.root }, here)
      | .error _ => (fs, here)) ((fs, []) : FileSystem × Path)).1

def write (fs : FileSystem) (path : Path) (n : Node) : FileSystem :=
  let fs := fs.makeDirs path.dropLast
  match fs.placeToWrite path with
  | .ok place => { fs with root := Node.put n place fs.root }
  | .error _ => fs

def remove? (fs : FileSystem) (path : Path) : Option FileSystem := do
  let place ← (fs.resolve false path).toOption
  let n ← fs.root.at? place
  if n.isDir then none
  return { fs with root := fs.root.remove place }

end FileSystem

end PluginAudit.Files
