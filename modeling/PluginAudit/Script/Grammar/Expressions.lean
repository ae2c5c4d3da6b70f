import PluginAudit.Script.Grammar.Classes

/-!
# Expressions
-/

namespace PluginAudit.Script.Grammar

open Reader

/-! ## Literals of arrays and objects -/

def spread (rules : Rules) (place : DotsPlace) : Reader Tree := do
  let start ← Reader.start
  expect "..."
  let e ← rules .assignment
  node (.spread place) start [e]

def arrayElement (rules : Rules) : Reader Tree := do
  let t ← cur
  if t.is "," then return .node .hole t.start t.stop []
  if t.is "..." then spread rules .arrayElement else rules .assignment

def arrayLiteral (rules : Rules) : Reader Tree := do
  let start ← Reader.start
  expect "["
  let items ← withIn (list "]" false (arrayElement rules))
  let comma ← cur
  let trailing ← eat ","
  expect "]"
  node (.array (if trailing then some comma.start else none)) start items

/-- A property `a` or, as a part of a pattern only, `a = 1`. -/
def shorthandProperty (rules : Rules) : Reader Tree := do
  let start ← Reader.start
  let name ← variableName
  if ← eat "=" then
    let value ← rules .assignment
    modify fun s => { s with loose := s.loose ++ [start] }
    let default ← node (.assignment "=") start [name, value]
    node (.property .value false true) start [name, default]
  else node (.property .value false true) start [name]

def methodProperty (rules : Rules) (form : PropertyForm) (start : Nat) (async : Bool) :
    Reader Tree := do
  let generator ← if form == .method then eat "*" else pure false
  let k ← key rules
  let f ← method rules .expression async generator
  node (.property form k.computed false) start [k.tree, f]

def property (rules : Rules) : Reader Tree := do
  let t ← cur
  if t.is "..." then return ← spread rules .objectProperty
  let next ← peek
  let beforeKey := next.kind.isMemberStart
  if t.is "get" && beforeKey then
    advance
    methodProperty rules .getter t.start false
  else if t.is "set" && beforeKey then
    advance
    methodProperty rules .setter t.start false
  else if t.is "async" && (beforeKey || next.is "*") && !next.afterNewline then
    advance
    methodProperty rules .method t.start true
  else if t.is "*" && beforeKey then methodProperty rules .method t.start false
  else if t.kind.isVariable && !next.kind.isOneOf ["(", ":", "<", "<<", "."] then
    shorthandProperty rules
  else
    let k ← key rules
    if ← eat ":" then
      let value ← rules .assignment
      node (.property .value k.computed false) t.start [k.tree, value]
    else if (← at_ "(") || (← at_ "<") || (← at_ "<<") then
      let f ← method rules .expression false false
      node (.property .method k.computed false) t.start [k.tree, f]
    else unexpected

def objectLiteral (rules : Rules) : Reader Tree := do
  let start ← Reader.start
  expect "\x7b"
  let items ← withIn (list "\x7d" false (property rules))
  let _ ← eat ","
  expect "\x7d"
  node .object start items

/-! ## Templates -/

/-- The current piece of a template. Only a tagged one may have malformed escapes. -/
def templatePiece (tagged : Bool) : Reader Tree := do
  let t ← cur
  advance
  if !tagged && t.value.isNone then complain .templateEscape (t.start + 1)
  return .node .templateText (t.start + 1) t.stop []

def substitution (rules : Rules) : Reader Tree := do
  let e ← withIn (expression rules)
  if ← at_ "\x7d" then rescan Lexer.templateRest
  return e

def templateLiteral (rules : Rules) (tagged : Bool) : Reader Tree := do
  let start ← Reader.start
  let whole := (← curKind) == .template .whole
  let first ← templatePiece tagged
  if whole then return ← node (.template tagged) start [first]
  let second ← substitution rules
  let all ← loop [second, first] fun (items : List Tree) => do
    match ← curKind with
    | .endOfText => refuse (.expected "$\x7d" "EOF") (← Reader.start)
    | .template .tail => return .inr ((← templatePiece tagged) :: items).reverse
    | .template .middle => return .inl ((← templatePiece tagged) :: items)
    | _ => return .inl ((← substitution rules) :: items)
  node (.template tagged) start all

def atTemplate : Reader Bool := do
  let k ← curKind
  return k == .template .whole || k == .template .head

/-! ## Operands -/

structure Operand where
  tree : Tree
  /-- Some `?.` stands in it. -/
  chained : Bool

def taggedTemplate (rules : Rules) (start : Nat) (tag : Operand) : Reader Operand := do
  let quasi ← templateLiteral rules true
  if tag.chained then complain .taggedChain quasi.start
  return ⟨← node .taggedTemplate start [tag.tree, quasi], tag.chained⟩

def namedMember (start : Nat) (object : Operand) : Reader Operand := do
  advance
  let name ← if (← curKind) == .privateName then privateName else nameText
  return ⟨← node .member start [object.tree, name], object.chained⟩

def computedMember (rules : Rules) (start : Nat) (object : Operand) : Reader Operand := do
  advance
  let index ← withIn (expression rules)
  expect "]"
  return ⟨← node .member start [object.tree, index], object.chained⟩

def memberRest (rules : Rules) (start : Nat) (object : Operand) : Reader Operand := do
  let brackets := !(← context).inDecorator
  loop object fun o => do
    if ← at_ "." then return .inl (← namedMember start o)
    if ← at_ "?." then
      let o := { o with chained := true }
      let next ← peek
      if next.is "[" && brackets then
        advance
        return .inl (← computedMember rules start o)
      if next.kind == .privateName || next.kind.isNameText then
        return .inl (← namedMember start o)
      return .inr o
    if (← at_ "[") && brackets then return .inl (← computedMember rules start o)
    if ← atTemplate then return .inl (← taggedTemplate rules start o)
    return .inr o

/-- Arguments from the opening parenthesis on, in the context of what is around them. -/
def argumentsHere (rules : Rules) : Reader (List Tree) := do
  expect "("
  let items ← list ")" true do
    if ← at_ "..." then spread rules .argument else rules .assignment
  expect ")"
  return items

def arguments (rules : Rules) : Reader (List Tree) :=
  within (fun c => { c with allowIn := true, inDecorator := false }) (argumentsHere rules)

def callRest (rules : Rules) (start : Nat) (callee : Operand) : Reader Operand := do
  loop callee fun o => do
    let o ← memberRest rules start o
    let optional ← eat "?."
    let o := { o with chained := o.chained || optional }
    if optional && (← atTemplate) then return .inl (← taggedTemplate rules start o)
    if ← at_ "(" then
      let args ← arguments rules
      return .inl ⟨← node (.call optional) start (o.tree :: args), o.chained⟩
    return .inr o

def isMemberOrCall (t : Tree) : Bool :=
  match t.kind with
  | .member | .call _ => true
  | _ => false

/-- A chain is one expression from its first operand to its end. -/
def closeChain (o : Operand) : Tree :=
  if o.chained && isMemberOrCall o.tree then
    .node .chain o.tree.start o.tree.stop [o.tree]
  else o.tree

def operand (rules : Rules) : Reader Tree := do
  let start ← Reader.start
  let first ← rules .primary
  return closeChain (← callRest rules start ⟨first, false⟩)

/-! ## Primary expressions -/

def metaProperty (start : Nat) (word : Tree) : Reader Tree := do
  let name ← if (← at_ "target") || (← at_ "meta") then wordLeaf else nameText
  node .metaProperty start [word, name]

def newExpression (rules : Rules) : Reader Tree := do
  let start ← Reader.start
  let word ← wordLeaf
  if ← eat "." then return ← metaProperty start word
  let calleeStart ← Reader.start
  let callee ← memberRest rules calleeStart ⟨← rules .primary, false⟩
  let args ← if ← at_ "(" then withIn (argumentsHere rules) else pure []
  if callee.tree.kind == .importCall then complain .newImport calleeStart
  let e ← node .newCall start (closeChain callee :: args)
  if callee.chained then complain .chainInNew start
  return e

def importExpression (rules : Rules) : Reader Tree := do
  let start ← Reader.start
  let word ← wordLeaf
  if ← eat "." then metaProperty start word
  else if ← eat "(" then
    let source ← withIn (rules .assignment)
    let more ← eat ","
    let options ← if more && !(← at_ ")") then
        let e ← withIn (rules .assignment)
        pure [e]
      else pure []
    let _ ← eat ","
    expect ")"
    node .importCall start (source :: options)
  else unexpected

def parenthesizedExpression (rules : Rules) : Reader Tree := do
  let start ← Reader.start
  expect "("
  let items ← within (fun c => { c with allowIn := true, inDecorator := false })
    (list ")" false (rules .assignment))
  let inner ← match items with
    | [] => do
      expect ")"
      refuse .emptyParentheses start
    | [e] => pure e
    | es => node .sequence (start + 1) es
  expect ")"
  node .parenthesized start [inner]

def regexLiteral : Reader Tree := do
  let s ← get
  match s.lex (Lexer.regex s.token) with
  | (none, s) =>
    set s
    refuse .unterminatedRegex s.token.start
  | (some t, s) =>
    set { s with token := t, ahead := [] }
    leaf (.regex t.raw)

def superWord : Reader Tree := do
  let e ← leaf .superWord
  if !(← at_ ".") && !(← at_ "[") && !(← at_ "(") then complain .bareSuper e.start
  return e

def primary (rules : Rules) : Reader Tree := do
  let start ← Reader.start
  decorators rules
  if ← atFunction then return ← functionFrom rules .expression false start
  let t ← cur
  match t.kind with
  | .string => stringLiteral
  | .number _ => numberLiteral
  | .template .whole => templateLiteral rules false
  | .template .head => templateLiteral rules false
  | .sign "/" => regexLiteral
  | .sign "/=" => regexLiteral
  | .sign "[" => arrayLiteral rules
  | .sign "\x7b" => objectLiteral rules
  | .sign "(" => parenthesizedExpression rules
  | .word "null" => leaf .constant
  | .word "true" => leaf .constant
  | .word "false" => leaf .constant
  | .word "this" => leaf .constant
  | .word "class" => classFrom rules .expression start
  | .word "new" => newExpression rules
  | .word "super" => superWord
  | .word "import" => importExpression rules
  | _ => variableName

/-! ## Operators -/

/-- `await` is an operator where an operand follows it. -/
def atAwait : Reader Bool := do
  if !(← at_ "await") then return false
  let next ← peek
  if next.is "=>" then return false
  if (← context).inAsync then return true
  if next.kind.isOneOf ["of", "(", "[", "/"] || next.kind == .regex ||
      next.kind == .template .whole || next.kind == .template .head then return false
  return !next.afterNewline && next.kind.startsOperand

def atYield : Reader Bool := do
  if !(← at_ "yield") then return false
  let next ← peek
  if next.is "=>" then return false
  if (← context).inGenerator then return true
  return !next.afterNewline && next.kind.startsOperand

/-- `await` before an operand, which counts from `outer`. -/
def awaitExpression (rules : Rules) (outer : Nat) : Reader Tree := do
  let start ← Reader.start
  advance
  if !(← context).inAsync then complain .awaitOutsideAsync start
  let e ← within ({ · with inAsync := true }) (rules (.unary outer))
  node .await start [e]

/-- `++` or `--` before or after an operand. Before it, the whole counts from `outer`. -/
def updateExpression (rules : Rules) (outer : Nat) : Reader Tree := do
  let t ← cur
  if t.kind.isUpdate then
    advance
    let e ← simpleTarget (← rules (.unary outer))
    return ← node .update outer [e]
  let e ← rules .operand
  let next ← cur
  if next.kind.isUpdate && !next.afterNewline then
    advance
    let e ← simpleTarget e
    node .update t.start [e]
  else return e

def unary (rules : Rules) (outer : Nat) : Reader Tree := do
  let t ← cur
  if t.kind.isUnary then
    advance
    let e ← rules (.unary t.start)
    node .unary t.start [e]
  else if ← atAwait then awaitExpression rules outer
  else updateExpression rules outer

def precedence? : TokenKind → Option Nat
  | .word "in" | .word "instanceof" => some 13
  | .sign s =>
    match s with
    | "??" => some 6
    | "||" => some 7
    | "&&" => some 8
    | "|" => some 9
    | "^" => some 10
    | "&" => some 11
    | "==" | "!=" | "===" | "!==" => some 12
    | "<" | ">" | "<=" | ">=" => some 13
    | "<<" | ">>" | ">>>" => some 14
    | "+" | "-" => some 15
    | "*" | "/" | "%" => some 16
    | "**" => some 17
    | _ => none
  | _ => none

/-- Joins a `>` with the signs directly after it. -/
def joinAngle : Reader Unit := do
  if ← at_ ">" then rescan Lexer.afterAngle

def operatorText : TokenKind → String
  | .sign s => s
  | .word w => w
  | _ => ""

def binaryRest (rules : Rules) (min start : Nat) (first : Tree) : Reader Tree := do
  loop first fun left => do
    joinAngle
    let t ← cur
    match precedence? t.kind with
    | none => return .inr left
    | some p =>
      let binds := if t.is "**" then min ≤ p else min < p
      if !binds || (t.is "in" && !(← context).allowIn) then return .inr left
      advance
      let right ← rules (.binary p)
      let sign := operatorText t.kind
      let kind := if t.kind.isLogical then Kind.logical sign else Kind.binary sign
      return .inl (← node kind start [left, right])

def binaryExpression (rules : Rules) (min : Nat) : Reader Tree := do
  let start ← Reader.start
  let first ← if (← context).allowIn && (← curKind) == .privateName then
      let name ← privateName
      expect "in"
      let right ← rules (.unary start)
      node .privateIn start [name, right]
    else rules (.unary start)
  binaryRest rules min start first

def conditionalRest (rules : Rules) (start : Nat) (test : Tree) : Reader Tree := do
  if !(← eat "?") then return test
  let yes ← withIn (rules .assignment)
  expect ":"
  let no ← rules .assignment
  node .conditional start [test, yes, no]

/-! ## Assignments -/

def yieldExpression (rules : Rules) : Reader Tree := do
  let start ← Reader.start
  advance
  if !(← context).inGenerator then complain .yieldOutsideGenerator start
  let next ← cur
  if next.afterNewline then return ← node .yield start []
  let delegate ← eat "*"
  let bare := (← atEnd) || (← curKind).isOneOf [";", "\x7d", ")", "]", ":", ","]
  if bare && !delegate then return ← node .yield start []
  let e ← within ({ · with inGenerator := true }) (rules .assignment)
  node .yield start [e]

def assignmentExpression (rules : Rules) : Reader Tree := do
  if ← atYield then return ← yieldExpression rules
  if let some arrow ← parenthesizedArrow rules then return arrow
  let start ← Reader.start
  if ← atAsyncName then
    advance
    let name ← rules (.binary 0)
    if !name.isName then unexpected
    return ← arrowAfterName rules start true name
  let left ← rules (.binary 0)
  if left.isName && (← at_ "=>") then return ← arrowAfterName rules start false left
  let t ← cur
  if t.kind.isAssignment then
    let left ← assignmentTarget left
    advance
    let right ← rules .assignment
    node (.assignment (operatorText t.kind)) start [left, right]
  else conditionalRest rules start left

end PluginAudit.Script.Grammar
