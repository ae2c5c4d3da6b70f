import PluginAudit.CommandLine.Options
import PluginAudit.Text.Similarity

/-!
# Misuse of the command

What can be wrong with the arguments, and how it is said.
-/

namespace PluginAudit.CommandLine

open Text

inductive UsageError where
  /-- No value, or an empty one. -/
  | missingValue (a : Argument)
  | unknownFormat (value : String)
  | repeated (a : Argument)
  /-- An argument that is not known, and one that it may be a misspelling of. `used` lists the
  arguments before it. -/
  | unknown (given : String) (similar : Option Argument) (mayBeValue : Bool) (used : List Argument)
  | surplusValue (a : Argument) (value : String) (used : List Argument)
  deriving DecidableEq, Repr

namespace UsageError

def usage (used : List Argument) : String :=
  if used.isEmpty then programName ++ " [OPTIONS] [ROOT]"
  else
    let options := (used.eraseDups.filter (· != .root)).map fun a => " " ++ a.display
    programName ++ String.join options ++ if used.contains .root then " <ROOT>" else " [ROOT]"

def headline : UsageError → String
  | missingValue a => "a value is required for '" ++ a.display ++ "' but none was supplied"
  | unknownFormat v => "invalid value '" ++ v ++ "' for '" ++ Argument.format.display ++ "'"
  | repeated a => "the argument '" ++ a.display ++ "' cannot be used multiple times"
  | unknown given .. => "unexpected argument '" ++ given ++ "' found"
  | surplusValue a v _ =>
    "unexpected value '" ++ v ++ "' for '" ++ a.display ++ "' found; no more were expected"

def choices : UsageError → String
  | missingValue .format | unknownFormat _ =>
    "\n  [possible values: " ++ ", ".intercalate (OutputFormat.all.map (·.name)) ++ "]"
  | _ => ""

def similarText (what name : String) : String := "a similar " ++ what ++ " exists: '" ++ name ++ "'"

def tip? : UsageError → Option String
  | unknownFormat v =>
    (mostSimilar? OutputFormat.name v OutputFormat.all).map fun f => similarText "value" f.name
  | unknown given similar mayBeValue _ =>
    match similar.bind (·.longName?) with
    | some n => some (similarText "argument" ("--" ++ n))
    | none =>
      if mayBeValue then some ("to pass '" ++ given ++ "' as a value, use '-- " ++ given ++ "'")
      else none
  | _ => none

def usage? : UsageError → Option String
  | missingValue _ | unknownFormat _ => none
  | repeated _ => some (usage [])
  | unknown _ similar _ used => some (usage (used ++ similar.toList))
  | surplusValue a _ used => some (usage (used ++ [a]))

def paragraph (lead : String) (text : Option String) : String :=
  match text with
  | some t => "\n\n" ++ lead ++ t
  | none => ""

def message (e : UsageError) : String :=
  "error: " ++ e.headline ++ e.choices ++ paragraph "  tip: " e.tip? ++
    paragraph "Usage: " e.usage? ++ "\n\nFor more information, try '--help'.\n"

end UsageError

end PluginAudit.CommandLine
