import PluginAudit.Script.Grammar.Patterns

/-!
# Functions

Parameters, bodies, functions and arrow functions.
-/

namespace PluginAudit.Script.Grammar

open Reader

def parameter (rules : Rules) : Reader Tree := do
  let start ← Reader.start
  decorators rules
  let p ← patternWithDefault rules
  node .parameter start (p :: (← takeDecorators))

def parameters (rules : Rules) : Reader Tree := do
  let start ← Reader.start
  expect "("
  let (items, rest) ← listWithRest ")" (parameter rules) (restElement rules .parameters)
  expect ")"
  node .parameters start (items ++ rest.toList)

def isDirective (t : Tree) : Bool :=
  match t.kind, t.parts with
  | .expressionStatement, [s] =>
    match s.kind with
    | .string _ => s.start == t.start
    | _ => false
  | _, _ => false

/-- Statements up to the end, or up to `}` inside a body. Leading strings are directives. -/
def statements (rules : Rules) (inBody : Bool) : Reader (List Tree) := do
  loop ((true, []) : Bool × List Tree) fun (prologue, items) => do
    if (← atEnd) || (inBody && (← at_ "\x7d")) then return .inr items.reverse
    let s ← rules (.statement false)
    if prologue && isDirective s then return .inl (true, s.withKind .directive :: items)
    return .inl (false, s :: items)

def functionBody (rules : Rules) : Reader Tree := do
  let start ← Reader.start
  expect "\x7b"
  let items ← within ({ · with allowReturn := true }) (statements rules true)
  expect "\x7d"
  node .body start items

def functionRest (rules : Rules) (place : Place) (start : Nat) (async generator : Bool)
    (name : List Tree) : Reader Tree := do
  let (ps, b) ← within (fun c =>
      { c with allowIn := true, inAsync := async, inGenerator := generator }) do
    let ps ← parameters rules
    if !(← at_ "\x7b") then unexpected
    return (ps, ← functionBody rules)
  node (.function place async generator) start (name ++ [ps, b])

def functionName (place : Place) (wanted async generator : Bool) : Reader (List Tree) := do
  let t ← cur
  if t.kind.isVariable then
    let named ← if place == .expression then
        within ({ · with inAsync := async, inGenerator := generator }) checkedName
      else checkedName
    return [named]
  if wanted then
    if t.is "(" then complain .missingFunctionName t.start
    else if t.kind.isReserved then refuse (.expected "Identifier" t.kind.describe) t.start
  return []

/-- A function from `async` or `function` on; `start` is where it counts from. -/
def functionFrom (rules : Rules) (place : Place) (wanted : Bool) (start : Nat) :
    Reader Tree := do
  let async ← eat "async"
  expect "function"
  let generator ← eat "*"
  let name ← functionName place wanted async generator
  functionRest rules place start async generator name

/-- The function of a method, which begins at its parameters. -/
def method (rules : Rules) (place : Place) (async generator : Bool) : Reader Tree := do
  functionRest rules place (← Reader.start) async generator []

/-! ## Arrow functions -/

/-- Whether parentheses open the parameters of an arrow function. -/
inductive ArrowGuess where
  | no | perhaps | yes
  deriving DecidableEq, Repr

def guessArrowAfterParen : Reader ArrowGuess := do
  let second ← cur
  if second.is ")" then
    advance
    let third ← cur
    return if third.is "=>" || third.is "\x7b" then .yes else .no
  if second.kind.isOneOf ["[", "\x7b", "..."] then return .perhaps
  if !second.is "async" && second.kind.isModifier then
    let next ← peek
    if next.kind.isPlainVariable then return if next.is "as" then .no else .yes
  if !second.kind.isVariable && !second.is "this" then return .no
  advance
  let third ← cur
  if third.is ":" then return .yes
  if third.is "?" then
    advance
    let fourth ← curKind
    return if fourth.isOneOf [":", ",", "=", ")"] then .yes else .no
  return if third.kind.isOneOf [",", "=", ")"] then .perhaps else .no

def guessArrow : Reader ArrowGuess := do
  if !(← at_ "(") && !(← at_ "async") then return .no
  ahead do
    if ← eat "async" then
      let t ← cur
      if t.afterNewline || !t.is "(" then return .no
    advance
    guessArrowAfterParen

structure ArrowHead where
  start : Nat
  async : Bool
  parameters : Tree

def arrowSign : Reader Unit := do
  let t ← cur
  if t.afterNewline then complain .newlineBeforeArrow t.start
  expect "=>"

def arrowHead (rules : Rules) : Reader ArrowHead := do
  let start ← Reader.start
  let async ← eat "async"
  let ps ← within (fun c => { c with inAsync := c.inAsync || async }) (parameters rules)
  arrowSign
  return ⟨start, async, ps⟩

def arrowBody (rules : Rules) (head : ArrowHead) : Reader Tree := do
  let b ← within ({ · with inAsync := head.async, inGenerator := false }) do
    if ← at_ "\x7b" then functionBody rules
    else
      let e ← rules .assignment
      let s := Tree.node .expressionStatement e.start e.stop [e]
      return .node .body e.start e.stop [s]
  node (.arrow head.async) head.start [head.parameters, b]

def parenthesizedArrow (rules : Rules) : Reader (Option Tree) := do
  match ← guessArrow with
  | .no => return none
  | .yes => return some (← arrowBody rules (← arrowHead rules))
  | .perhaps =>
    let start ← Reader.start
    if (← get).notArrow.contains start then return none
    match ← attempt (arrowHead rules) with
    | some head => return some (← arrowBody rules head)
    | none =>
      modify fun s => { s with notArrow := start :: s.notArrow }
      return none

def arrowAfterName (rules : Rules) (start : Nat) (async : Bool) (name : Tree) : Reader Tree := do
  let p := Tree.node .parameter name.start name.stop [name]
  let ps := Tree.node .parameters name.start name.stop [p]
  arrowSign
  arrowBody rules ⟨start, async, ps⟩

def atAsyncName : Reader Bool := do
  if !(← at_ "async") then return false
  ahead do
    advance
    let t ← cur
    if t.afterNewline || t.is "=>" then return false
    if !t.kind.isVariable then return false
    advance
    at_ "=>"

end PluginAudit.Script.Grammar
