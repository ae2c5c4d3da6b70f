import PluginAudit.Plugin.EntryShape
import PluginAudit.Script.Program

/-!
# Entry points

A plugin for pages returns a function that is called where it stands. `EntryPoint.count` finds
these in a tree; returns of functions and classes within do not count.
-/

namespace PluginAudit.Plugin

open Script

namespace EntryPoint

/-- The expression inside any number of parentheses. -/
def unparenthesized : Tree → Tree
  | .node .parenthesized _ _ [inner] => unparenthesized inner
  | t => t

def isFunctionExpression (t : Tree) : Bool :=
  match t.kind with
  | .function .expression _ _ => true
  | _ => false

def isCallInPlace (t : Tree) : Bool :=
  match t.kind, t.parts with
  | .call _, callee :: _ =>
    callee.kind == .parenthesized && isFunctionExpression (unparenthesized callee)
  | _, _ => false

def isEntryReturn (t : Tree) : Bool :=
  t.kind == .returnStatement && t.parts.any fun value => isCallInPlace (unparenthesized value)

/-- Functions and classes that stand as statements or expressions have returns of their own. -/
def isOwnScope (k : Kind) : Bool :=
  match k with
  | .function place _ _ | .classDefinition place => place == .statement || place == .expression
  | .arrow _ => true
  | _ => false

mutual

def count : Tree → Nat
  | .node k s e ps =>
    if k == .returnStatement then if isEntryReturn (.node k s e ps) then 1 else 0
    else if isOwnScope k then 0
    else countAll ps

def countAll : List Tree → Nat
  | [] => 0
  | t :: ts => count t + countAll ts

end

end EntryPoint

inductive ScanMethod where
  | syntaxTree
  /-- Counted by the written shape, since the text is no script. -/
  | pattern
  deriving DecidableEq, Repr

structure EntryScan where
  count : Nat
  method : ScanMethod
  deriving DecidableEq, Repr

def scanEntryPoints (text : List Char) : EntryScan :=
  match Script.read true text with
  | .ok tree => ⟨EntryPoint.count tree, .syntaxTree⟩
  | .error _ => ⟨countShapes text, .pattern⟩

inductive EntryProblem where
  | missing
  | several (count : Nat)
  deriving DecidableEq, Repr

def EntryProblem.message : EntryProblem → String
  | missing => "must contain one return statement with a self-invoking function"
  | several n => "contains multiple return-IIFEs; only one allowed (found " ++ toString n ++ ")"

def EntryScan.enforce (s : EntryScan) : Except EntryProblem EntryScan :=
  match s.count with
  | 0 => .error .missing
  | 1 => .ok s
  | n => .error (.several n)

theorem EntryScan.enforce_isOk_iff {s : EntryScan} : (∃ r, s.enforce = .ok r) ↔ s.count = 1 := by
  unfold enforce
  split <;> simp_all

end PluginAudit.Plugin
