import PluginAudit.Script.Reader

/-!
# Names, literals and keys

The rules of the grammar call each other through `Rules`, a reader for each rule that others need
before it is defined.
-/

namespace PluginAudit.Script

inductive Rule where
  | assignment
  | binary (precedence : Nat)
  /-- `start`: where the outermost operand it is a part of begins. -/
  | unary (start : Nat)
  | operand
  | primary
  | pattern
  /-- `conditional`: whether `extends` may follow and make a choice of it. -/
  | type (conditional : Bool)
  /-- `inBody`: as the only statement of a loop, branch or label. -/
  | statement (inBody : Bool)

abbrev Rules := Rule → Reader Tree

namespace Grammar

open Reader

def nameLeaf : Reader Tree := do
  let t ← cur
  advanceName
  return .node (.name t.raw) t.start t.stop []

/-- `await` and `yield` name nothing where they are operators. -/
def checkName (value : Option String) (offset : Nat) : Reader Unit := do
  let c ← context
  if c.inAsync && value == some "await" then complain .awaitAsName offset
  if c.inGenerator && value == some "yield" then complain .yieldAsName offset

def checkedName : Reader Tree := do
  let t ← cur
  let tree ← nameLeaf
  checkName t.value t.start
  return tree

def variableName : Reader Tree := do
  if (← curKind).isVariable then checkedName else unexpected

def boundName : Reader Tree := do
  let t ← cur
  if t.kind.isVariable then checkedName
  else match t.kind with
    | .word w => refuse (.reservedBinding w) t.start
    | _ => unexpected

def label : Reader Tree := do
  let k ← curKind
  let c ← context
  if k.isPlainVariable || (k.is "yield" && !c.inGenerator) || (k.is "await" && !c.inAsync) then
    checkedName
  else unexpected

def nameText : Reader Tree := do
  if (← curKind).isNameText then nameLeaf else unexpected

def wordLeaf : Reader Tree := do
  let t ← cur
  advance
  return .node (.name t.raw) t.start t.stop []

def privateName : Reader Tree := do
  let t ← cur
  leaf (.privateName t.raw)

def stringLiteral : Reader Tree := do
  let t ← cur
  if t.kind == .string then leaf (.string t.raw) else unexpected

def numberLiteral : Reader Tree := do
  let t ← cur
  leaf (if t.raw.getLast? == some 'n' then .bigint t.raw else .number t.raw)

structure Key where
  tree : Tree
  computed : Bool
  /-- What the key spells, if it is no expression. -/
  spelled : Option String

def key (rules : Rules) : Reader Key := do
  let t ← cur
  if t.kind == .string then return ⟨← stringLiteral, false, t.value⟩
  if t.kind.isNumber then return ⟨← numberLiteral, false, none⟩
  if t.is "[" then
    advance
    let e ← withIn (rules .assignment)
    expect "]"
    return ⟨e, true, none⟩
  return ⟨← nameText, false, t.value⟩

/-- Expressions separated by commas. They are no part of a decorator's name, and what follows them
is one again only after a comma; a single expression leaves this to the construct around it. -/
def expression (rules : Rules) : Reader Tree := do
  let start ← Reader.start
  let outer ← context
  setContext ({ · with inDecorator := false })
  let first ← rules .assignment
  if !(← at_ ",") then return first
  let all ← loop [first] fun (items : List Tree) => do
    if ← eat "," then return .inl ((← rules .assignment) :: items)
    return .inr items.reverse
  if outer.inDecorator then setContext ({ · with inDecorator := true })
  node .sequence start all

def condition (rules : Rules) : Reader Tree := do
  expect "("
  let e ← expression rules
  expect ")"
  return e

def atFunction : Reader Bool := do
  if ← at_ "function" then return true
  if !(← at_ "async") then return false
  let p ← peek
  return p.is "function" && !p.afterNewline

def decorator (rules : Rules) : Reader Tree := do
  let start ← Reader.start
  advance
  let e ← within ({ · with inDecorator := true }) (rules .operand)
  node .decorator start [e]

/-- Decorators that stand here wait for what they decorate, in place of those that waited before. -/
def decorators (rules : Rules) : Reader Unit := do
  if !(← at_ "@") then return
  let all ← loop [] fun (items : List Tree) => do
    if !(← at_ "@") then return .inr items.reverse
    return .inl ((← decorator rules) :: items)
  modify fun s => { s with decorators := all }

/-- Decorators that stand here wait too. One that cannot be read is left where it is. -/
def moreDecorators (rules : Rules) : Reader Bool := do
  loop false fun found => do
    if !(← at_ "@") then return .inr found
    let some d ← attempt (decorator rules) | return .inr found
    modify fun s => { s with decorators := s.decorators ++ [d] }
    return .inl true

def takeDecorators : Reader (List Tree) := do
  let s ← get
  set { s with decorators := [] }
  return s.decorators

end Grammar

end PluginAudit.Script
