import PluginAudit.Text.Characters

/-!
# Log lines

A filter says from which level on events are logged, for all parts of the program or for some.
-/

namespace PluginAudit.CommandLine

inductive Level where
  | error | warn | info | debug | trace
  deriving DecidableEq, Repr

namespace Level

def rank : Level → Nat
  | error => 1
  | warn => 2
  | info => 3
  | debug => 4
  | trace => 5

/-- The name, as wide as the widest. -/
def tag : Level → String
  | error => "ERROR"
  | warn => " WARN"
  | info => " INFO"
  | debug => "DEBUG"
  | trace => "TRACE"

end Level

structure LogEvent where
  level : Level
  part : String
  message : String
  fields : List (String × String)
  deriving DecidableEq, Repr

def LogEvent.line (e : LogEvent) : String :=
  e.level.tag ++ " " ++ e.message ++ String.join (e.fields.map fun (k, v) => " " ++ k ++ "=" ++ v)

/-- Parts of the program, and the rank up to which their events are logged. -/
abbrev LogFilter := List (List Char × Nat)

namespace LogFilter

/-- Ranks have names, in any case, and numbers. -/
def rankNames : List (String × Nat) :=
  [("off", 0), ("error", 1), ("warn", 2), ("info", 3), ("debug", 4), ("trace", 5),
    ("0", 0), ("1", 1), ("2", 2), ("3", 3), ("4", 4), ("5", 5)]

def rank? (text : List Char) : Option Nat :=
  rankNames.lookup (String.ofList (text.map Char.toLower))

def isPartCharacter (c : Char) : Bool := Text.isWord c || c == ':' || c == '-'

/-- Reads `rank`, `part`, `part=` or `part=rank`; a part alone is logged in full. -/
def readRule? (text : List Char) : Option (List Char × Nat) :=
  match rank? text with
  | some n => some ([], n)
  | none =>
    let part := text.takeWhile isPartCharacter
    if part.isEmpty then none
    else
      match text.drop part.length with
      | [] | ['='] => some (part, Level.trace.rank)
      | '=' :: rank => (rank? rank).map (part, ·)
      | _ => none

def pieces : List Char → List (List Char)
  | [] => [[]]
  | c :: cs =>
    if c == ',' then [] :: pieces cs
    else
      match pieces cs with
      | [] => [[c]]
      | p :: ps => (c :: p) :: ps

def warnings : LogFilter := [([], Level.warn.rank)]

/-- Reads rules between commas. A filter without rules logs errors, one that cannot be read
warnings. -/
def read (text : String) : LogFilter :=
  match ((pieces text.toList).filter (!·.isEmpty)).mapM readRule? with
  | some [] => [([], Level.error.rank)]
  | some rules => rules
  | none => warnings

/-- The rule for a part that says more; of equals the later one. -/
def closerOf : Option (List Char × Nat) → List Char × Nat → Option (List Char × Nat)
  | none, rule => some rule
  | some best, rule => if best.1.length ≤ rule.1.length then some rule else some best

/-- Whether an event is logged: the rule with the longest name that its part begins with decides. -/
def allows (f : LogFilter) (e : LogEvent) : Bool :=
  match (f.filter fun (part, _) => part.isPrefixOf e.part.toList).foldl closerOf none with
  | some (_, n) => e.level.rank ≤ n
  | none => false

end LogFilter

end PluginAudit.CommandLine
