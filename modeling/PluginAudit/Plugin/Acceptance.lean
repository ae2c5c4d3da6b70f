import PluginAudit.Plugin.EntryShape
import PluginAudit.Script.Feature
import PluginAudit.Script.Program
import PluginAudit.Text.Position

/-!
# Accepting plugin texts

A plugin runs as the body of a function. `acceptBare` reads its text as it stands, `acceptWrapped`
inside a wrapper function, and `accept` tries the wrapper where a line begins with `return (`.
-/

namespace PluginAudit.Plugin

open Text Script

inductive Attempt where
  | bare | wrapped
  deriving DecidableEq, Repr

inductive SyntaxCause where
  | fault (f : Fault)
  /-- The text was given up without a fault. -/
  | unfinished
  | newer (f : Finding)
  deriving DecidableEq, Repr

namespace SyntaxCause

def isGrammar : SyntaxCause → Bool
  | newer _ => false
  | _ => true

def message : SyntaxCause → String
  | fault f => f.message
  | unfinished => "unexpected end of input"
  | newer f => f.message

end SyntaxCause

/-- Why a text is not accepted; the position is one of the plugin's own text. -/
structure SyntaxProblem where
  cause : SyntaxCause
  position : Option Position
  edition : Edition
  attempt : Attempt
  deriving DecidableEq, Repr

def SyntaxProblem.display (p : SyntaxProblem) : String :=
  match p.position with
  | some at_ =>
    p.cause.message ++ " (" ++ toString at_.line ++ ":" ++ toString at_.column ++ ")"
  | none => p.cause.message

structure Accepted where
  edition : Edition
  wrapped : Bool
  deriving DecidableEq, Repr

/-! ## The wrapper -/

def wrapperOpening : List Char := "(function __plugin_entry__() \x7b\n".toList

def wrapperClosing : List Char := "\n\x7d)();".toList

/-- The lines before the plugin's own first line. -/
def wrapperLines : Nat := 1

def wrap (text : List Char) : List Char := wrapperOpening ++ text ++ wrapperClosing

def Attempt.text (a : Attempt) (text : List Char) : List Char :=
  match a with
  | bare => text
  | wrapped => wrap text

/-- A place in the text of an attempt as a place of the plugin. -/
def Attempt.relocate (a : Attempt) (p : Position) : Position :=
  match a with
  | bare => p
  | wrapped => { p with line := max (p.line - wrapperLines) 1 }

/-! ## Attempts -/

def locate (full : List Char) (offset : Nat) (a : Attempt) : Option Position :=
  (Position.ofOffset? full offset).map a.relocate

def fullCheck (full : List Char) (edition : Edition) : Option (SyntaxCause × Option Nat) :=
  match Script.read false full with
  | .error ⟨[]⟩ => some (.unfinished, none)
  | .error ⟨f :: _⟩ => some (.fault f.fault, some f.offset)
  | .ok tree => (Finding.firstAbove? edition tree.findings).map fun f => (.newer f, some f.offset)

def attempt (text : List Char) (edition : Edition) (a : Attempt) :
    Except SyntaxProblem Accepted :=
  let full := a.text text
  match fullCheck full edition with
  | none => .ok ⟨edition, a == .wrapped⟩
  | some (cause, offset) =>
    .error ⟨cause, offset.bind (locate full · a), edition, a⟩

def acceptBare (text : List Char) (edition : Edition) : Except SyntaxProblem Accepted :=
  attempt text edition .bare

def acceptWrapped (text : List Char) (edition : Edition) : Except SyntaxProblem Accepted :=
  attempt text edition .wrapped

/-- Reads a text as it stands, else, if a line begins with `return (`, in the wrapper. -/
def accept (text : List Char) (edition : Edition) : Except SyntaxProblem Accepted :=
  match acceptBare text edition with
  | .ok r => .ok r
  | .error p => if hasReturnLine text then acceptWrapped text edition else .error p

end PluginAudit.Plugin
