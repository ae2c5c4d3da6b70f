/-!
# Paths

A path is the list of its pieces between slashes. An empty last piece is a trailing slash, an empty
first one makes the path absolute.
-/

namespace PluginAudit.Files

abbrev Name := List Char

abbrev Path := List Name

namespace Path

def split : List Char → Path
  | [] => [[]]
  | c :: cs =>
    if c == '/' then [] :: split cs
    else
      match split cs with
      | [] => [[c]]
      | p :: ps => (c :: p) :: ps

def text : Path → List Char
  | [] => []
  | [p] => p
  | p :: q :: ps => p ++ '/' :: text (q :: ps)

theorem split_ne_nil (cs : List Char) : split cs ≠ [] := by
  cases cs with
  | nil => simp [split]
  | cons c cs =>
    simp only [split]
    split
    · simp
    · split <;> simp

theorem text_split (cs : List Char) : text (split cs) = cs := by
  induction cs with
  | nil => rfl
  | cons c cs ih =>
    simp only [split]
    split
    · rename_i h
      have hc : c = '/' := by simpa using h
      cases hs : split cs with
      | nil => exact absurd hs (split_ne_nil cs)
      | cons p ps =>
        rw [hs] at ih
        simp [text, hc, ih]
    · cases hs : split cs with
      | nil => exact absurd hs (split_ne_nil cs)
      | cons p ps =>
        rw [hs] at ih
        cases ps with
        | nil => simpa [text] using ih
        | cons q qs => simpa [text] using ih

def ofString (s : String) : Path := split s.toList

def toString (p : Path) : String := String.ofList p.text

/-- One piece more; an empty last piece is filled. -/
def join : Path → Name → Path
  | [], n => [n]
  | [[]], n => [n]
  | [p], n => [p, n]
  | p :: q :: ps, n => p :: join (q :: ps) n

/-- A piece as it counts in comparing paths. -/
inductive Component where
  | root | here | parent
  | name (n : Name)
  deriving DecidableEq, Repr

namespace Component

def rank : Component → Nat
  | root => 0
  | here => 1
  | parent => 2
  | name _ => 3

def lt (a b : Component) : Bool :=
  match a, b with
  | name m, name n => m < n
  | a, b => a.rank < b.rank

end Component

/-- The components after the first piece: `.` and empty pieces do not count. -/
def laterComponents (ps : Path) : List Component :=
  ps.filterMap fun p =>
    if p.isEmpty || p == ['.'] then none
    else if p == ['.', '.'] then some .parent
    else some (.name p)

def components : Path → List Component
  | [] => []
  | [[]] => []
  | p :: ps =>
    if p.isEmpty then .root :: laterComponents ps
    else if p == ['.'] then .here :: laterComponents ps
    else laterComponents (p :: ps)

/-- The working directory, in whatever spelling. -/
def isHere (p : Path) : Bool := p.components == [.here]

def isAbsolute : Path → Bool
  | [] :: _ :: _ => true
  | _ => false

/-- The path `/`. -/
def top : Path := [[], []]

/-- The path `.`. -/
def here : Path := [['.']]

/-- The directory in which a path begins that is looked up in another one. -/
def origin (p dir : Path) : Path := if p.isAbsolute then [] else dir

/-- The order of paths by components. -/
def componentsLe : List Component → List Component → Bool
  | [], _ => true
  | _ :: _, [] => false
  | a :: as, b :: bs => if a.lt b then true else if b.lt a then false else componentsLe as bs

def le (p q : Path) : Bool := componentsLe p.components q.components

def fileName? (p : Path) : Option Name :=
  match p.components.getLast? with
  | some (.name n) => some n
  | _ => none

/-- The end of a name after its last dot; none if the dot is missing or first. -/
def extension? (n : Name) : Option Name :=
  let last := n.reverse.takeWhile (· != '.')
  if n == ['.', '.'] || last.length + 1 ≥ n.length then none else some last.reverse

end Path

end PluginAudit.Files
