import PluginAudit.Script.Grammar.Basic

/-!
# Modifiers

Words before a class member that change it. Each of them is also a name, so what follows the word
decides.
-/

namespace PluginAudit.Script.Grammar

open Reader

structure Modifier where
  word : String
  start : Nat
  deriving DecidableEq, Repr

/-- Passes `default` and says whether it is followed by what a module may export by default. -/
def passDefault : Reader Bool := do
  advance
  let t ← cur
  if t.kind.isOneOf ["class", "function", "interface", "@"] then return true
  if !t.kind.isOneOf ["abstract", "async"] then return false
  let next ← peek
  return next.is (if t.is "async" then "function" else "class") && !next.afterNewline

/-- Passes `export` and says whether what follows makes it a modifier. -/
def passExport : Reader Bool := do
  advance
  if ← at_ "default" then return ← ahead passDefault
  if ← at_ "type" then
    return ← ahead do
      advance
      return (← curKind).followsExport
  return (← curKind).followsExport

/-- Passes a word and says whether what follows makes it a modifier. Only after `static` may that
stand on another line. -/
def passModifier (constAllowed : Bool) : Reader Bool := do
  let word ← cur
  if word.is "export" then return ← passExport
  if word.is "default" then return ← passDefault
  if word.is "const" && !constAllowed then return false
  advance
  let t ← cur
  return t.kind.followsModifier && (word.is "static" || !t.afterNewline)

/-- One modifier, if one stands here. The `static` of a block is none, nor is a second `static`. -/
def modifier? (constAllowed : Bool) (before : List Modifier) : Reader (Option Modifier) := do
  let t ← cur
  let .word w := t.kind | return none
  if !t.kind.isModifier then return none
  if w == "static" then
    if before.any (·.word == "static") then return none
    if ← peekAt "\x7b" then return none
  let passed ← attempt do
    if !(← passModifier constAllowed) then unexpected
  return passed.map fun _ => ⟨w, t.start⟩

def modifiers (constAllowed : Bool) (before : List Modifier) : Reader (List Modifier) := do
  loop before fun ms => do
    let some m ← modifier? constAllowed ms | return .inr ms
    if ms.any (·.word == m.word) then complain (.repeatedModifier m.word) m.start
    return .inl (ms ++ [m])

def memberModifiers (rules : Rules) : Reader (List Modifier) := do
  let _ ← moreDecorators rules
  let ms ← modifiers true []
  if ms.isEmpty then return []
  if ← moreDecorators rules then modifiers true ms else return ms

end PluginAudit.Script.Grammar
