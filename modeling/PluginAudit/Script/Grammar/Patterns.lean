import PluginAudit.Script.Grammar.Basic

/-!
# Patterns

Patterns that bind names, and the reading of an expression as a pattern that assigns.
-/

namespace PluginAudit.Script.Grammar

open Reader

/-! ## Binding -/

def listWithRest (close : String) (element rest : Reader Tree) :
    Reader (List Tree × Option Tree) := do
  loop ((true, [], none) : Bool × List Tree × Option Tree) fun (first, items, collected) => do
    let done : Reader ((Bool × List Tree × Option Tree) ⊕ (List Tree × Option Tree)) :=
      return .inr (items.reverse, collected)
    if (← at_ close) || (← atEnd) then return ← done
    if !first then
      expect ","
      if ← at_ close then return ← done
    if ← at_ "..." then
      let r ← rest
      return .inl (false, items, some r)
    return .inl (false, (← element) :: items, collected)

def withDefault (rules : Rules) (start : Nat) (p : Tree) : Reader Tree := do
  if ← eat "=" then
    let e ← rules .assignment
    node .defaulted start [p, e]
  else return p

def patternWithDefault (rules : Rules) : Reader Tree := do
  let start ← Reader.start
  let p ← rules .pattern
  withIn (withDefault rules start p)

/-- `...` and the pattern for the rest, which should be the last element. It may have a default. -/
def restElement (rules : Rules) (place : DotsPlace) : Reader Tree := do
  let start ← Reader.start
  expect "..."
  let p ← patternWithDefault rules
  let r ← node (.rest place) start [p]
  if ← at_ "," then
    let after ← peek
    if after.is "\x7d" || after.is "]" then
      let comma ← Reader.start
      advance
      complain .commaAfterRest comma
    complain (if place == .parameters then .restParameterNotLast else .restElementNotLast) start
  return r

def patternProperty (rules : Rules) : Reader Tree := do
  let start ← Reader.start
  let named := (← curKind).isVariable
  let k ← key rules
  if named && !(← at_ ":") then
    if !k.tree.isName then unexpected
    let value ← withIn (withDefault rules start k.tree)
    node (.patternProperty false true) start [k.tree, value]
  else
    expect ":"
    let value ← patternWithDefault rules
    node (.patternProperty k.computed false) start [k.tree, value]

def objectPattern (rules : Rules) : Reader Tree := do
  let start ← Reader.start
  expect "\x7b"
  let (items, rest) ← listWithRest "\x7d" (patternProperty rules) (restElement rules .objectPattern)
  for r in rest do
    for p in r.parts do
      if !p.isName then refuse .invalidRest p.start
  expect "\x7d"
  node .objectPattern start (items ++ rest.toList)

def arrayPatternElement (rules : Rules) : Reader Tree := do
  if ← at_ "," then
    let t ← cur
    return .node .hole t.start t.stop []
  patternWithDefault rules

def arrayPattern (rules : Rules) : Reader Tree := do
  let start ← Reader.start
  expect "["
  let (items, rest) ← listWithRest "]" (arrayPatternElement rules) (restElement rules .arrayPattern)
  expect "]"
  node .arrayPattern start (items ++ rest.toList)

def pattern (rules : Rules) : Reader Tree := do
  if ← at_ "\x7b" then objectPattern rules
  else if ← at_ "[" then arrayPattern rules
  else boundName

/-! ## Assigning -/

def targetElement (target : Tree → Reader Tree) (e : Tree) : Reader Tree := do
  match e.kind with
  | .hole => return e
  | .assignment _ => return e.withKind .defaultedTarget
  | _ => target e

def targetRest (target : Tree → Reader Tree) (place : DotsPlace) (e : Tree) : Reader Tree := do
  let parts ← e.parts.mapM target
  return .node (.rest place) e.start e.stop parts

/-- An element of an array, after the last of which a comma may stand. -/
def arrayTargetElement (target : Tree → Reader Tree) (trailing : Option Nat) (isLast : Bool)
    (e : Tree) : Reader Tree := do
  match e.kind with
  | .spread _ =>
    if isLast then
      let r ← targetRest target .arrayTarget e
      for comma in trailing do complain .commaAfterRest comma
      return r
    else refuse .spreadNotLast e.start
  | _ => targetElement target e

def shorthandDefault (value : List Tree) : List Tree :=
  value.flatMap fun v => match v.kind with
    | .assignment _ => v.parts.drop 1
    | _ => []

def objectTargetProperty (target : Tree → Reader Tree) (isLast : Bool) (p : Tree) :
    Reader Tree := do
  match p.kind, p.parts with
  | .spread _, _ =>
    if isLast then targetRest target .objectTarget p else refuse .spreadNotLast p.start
  | .property _ computed true, name :: value =>
    modify fun s => { s with loose := s.loose.filter (· != p.start) }
    return .node (.targetProperty computed true) p.start p.stop (name :: shorthandDefault value)
  | .property _ computed false, [name, value] =>
    let v ← targetElement target value
    return .node (.targetProperty computed false) p.start p.stop [name, v]
  | _, _ => refuse .notAssignable p.start

/-- Reads an expression as what an assignment writes to. -/
def target : Nat → Tree → Reader Tree
  | 0, _ => throw .exhausted
  | n + 1, t => do
    match t.kind, t.parts with
    | .name _, _ => return t
    | .member, _ => return t
    | .parenthesized, [inner] =>
      match inner.kind with
      | .object => refuse .notAssignable t.start
      | .array _ => refuse .notAssignable t.start
      | _ => target n inner
    | .array trailing, elements =>
      let parts ← elements.zipIdx.mapM fun (e, i) =>
        arrayTargetElement (target n) trailing (i + 1 == elements.length) e
      return .node .arrayTarget t.start t.stop parts
    | .object, properties =>
      let parts ← properties.zipIdx.mapM fun (p, i) =>
        objectTargetProperty (target n) (i + 1 == properties.length) p
      return .node .objectTarget t.start t.stop parts
    | _, _ => refuse .notAssignable t.start

/-- A target that is no pattern of its own, as `++` needs. -/
def simpleTarget (t : Tree) : Reader Tree := do
  match t.kind with
  | .object => refuse .notAssignable t.start
  | .array _ => refuse .notAssignable t.start
  | _ => target (← limit) t

def assignmentTarget (t : Tree) : Reader Tree := do target (← limit) t

end PluginAudit.Script.Grammar
