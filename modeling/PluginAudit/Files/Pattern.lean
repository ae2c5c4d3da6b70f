import PluginAudit.Files.Path

/-!
# Patterns of file names

`?` is any character, `*` any run of characters, `[…]` one of a set and `[!…]` none of a set. `**`
stands alone between slashes, for any number of directories.
-/

namespace PluginAudit.Files

inductive Range where
  | single (c : Char)
  | between (first last : Char)
  deriving DecidableEq, Repr

def Range.holds (c : Char) : Range → Bool
  | single d => c == d
  | between first last => first ≤ c && c ≤ last

inductive Glob where
  | char (c : Char)
  | any
  | run
  | directories
  | within (set : List Range)
  | except (set : List Range)
  deriving DecidableEq, Repr

inductive PatternProblem where
  | set | stars | directories
  deriving DecidableEq, Repr

def PatternProblem.message : PatternProblem → String
  | set => "invalid range pattern"
  | stars => "wildcards are either regular `*` or recursive `**`"
  | directories => "recursive wildcards must form a single path component"

structure PatternError where
  problem : PatternProblem
  index : Nat
  deriving DecidableEq, Repr

def PatternError.message (e : PatternError) : String :=
  "Pattern syntax error near position " ++ ToString.toString e.index ++ ": " ++ e.problem.message

namespace Glob

/-- The parts of a set: `a-z` is a range, all else single characters. -/
def ranges : List Char → List Range
  | a :: '-' :: b :: rest => .between a b :: ranges rest
  | a :: rest => .single a :: ranges rest
  | [] => []

/-- The characters of a set and the text after its bracket. The first character is always in the
set. -/
def setAt? : List Char → Option (List Char × List Char)
  | [] => none
  | c :: rest =>
    let inner := rest.takeWhile (· != ']')
    if inner.length < rest.length then some (c :: inner, rest.drop (inner.length + 1)) else none

def bracket? : List Char → Option (Glob × List Char)
  | '!' :: rest => (setAt? rest).map fun (set, after) => (.except (ranges set), after)
  | rest => (setAt? rest).map fun (set, after) => (.within (ranges set), after)

/-- What the stars before `rest` mean; `before` is the character before them. -/
def stars (count index : Nat) (before : Option Char) (rest : List Char) :
    Except PatternError (Glob × List Char) :=
  if count == 1 then .ok (.run, rest)
  else if 2 < count then .error ⟨.stars, index + 2⟩
  else if !(before == none || before == some '/') then .error ⟨.directories, index - 1⟩
  else
    match rest with
    | [] => .ok (.directories, [])
    | '/' :: after => .ok (.directories, after)
    | _ => .error ⟨.directories, index + 2⟩

/-- Reads a pattern; `n` bounds the steps, `index` counts the characters read. -/
def readFrom : Nat → Nat → Option Char → List Char → Except PatternError (List Glob)
  | 0, _, _, _ => .ok []
  | _ + 1, _, _, [] => .ok []
  | n + 1, index, before, c :: cs => do
    let (g, rest) ←
      if c == '?' then .ok (.any, cs)
      else if c == '*' then
        let more := cs.takeWhile (· == '*')
        stars (more.length + 1) index before (cs.drop more.length)
      else if c == '[' then
        match bracket? cs with
        | some r => .ok r
        | none => .error ⟨.set, index⟩
      else .ok (.char c, cs)
    let taken := cs.length + 1 - rest.length
    return g :: (← readFrom n (index + taken) ((c :: cs).take taken).getLast? rest)

def read (text : List Char) : Except PatternError (List Glob) :=
  readFrom text.length 0 none text

def accepts (c : Char) : Glob → Bool
  | char d => c == d
  | any => true
  | within set => set.any (·.holds c)
  | except set => !set.any (·.holds c)
  | run | directories => false

def isRun : Glob → Bool
  | run | directories => true
  | _ => false

def fits : List Glob → List Char → Bool
  | [], cs => cs.isEmpty
  | g :: gs, [] => g.isRun && fits gs []
  | g :: gs, c :: cs =>
    if g.isRun then fits gs (c :: cs) || fits (g :: gs) cs
    else g.accepts c && fits gs cs
termination_by gs cs => (gs.length, cs.length)

/-- The name that a pattern without wildcards stands for. -/
def literal? : List Glob → Option Name
  | [] => some []
  | char c :: gs => (literal? gs).map (c :: ·)
  | _ :: _ => none

/-- A name as a pattern for itself. -/
def escape (text : List Char) : List Char :=
  text.flatMap fun c =>
    if c == '?' || c == '*' || c == '[' || c == ']' then ['[', c, ']'] else [c]

end Glob

end PluginAudit.Files
