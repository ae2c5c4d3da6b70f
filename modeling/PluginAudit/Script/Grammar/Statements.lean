import PluginAudit.Script.Grammar.Expressions

/-!
# Statements
-/

namespace PluginAudit.Script.Grammar

open Reader

def orRefuse (r : Reader α) (f : Fault) (offset : Nat) : Reader α := fun s =>
  match r s with
  | .error (.fault _) s' => .error (.fault ⟨f, offset⟩) s'
  | other => other

def bodyStatement (rules : Rules) : Reader Tree := rules (.statement true)

def sequenceUntil (stop : TokenKind → Bool) (element : Reader Tree) : Reader (List Tree) := do
  loop [] fun (items : List Tree) => do
    let k ← curKind
    if stop k || k == .endOfText then return .inr items.reverse
    return .inl ((← element) :: items)

def closesBlock (k : TokenKind) : Bool := k.is "\x7d"

def block (rules : Rules) : Reader Tree := do
  let start ← Reader.start
  expect "\x7b"
  let items ← sequenceUntil closesBlock (rules (.statement false))
  expect "\x7d"
  node .block start items

def expressionStatement (start : Nat) (e : Tree) : Reader Tree := do
  semicolon
  node .expressionStatement start [e]

/-! ## Declarations -/

inductive DeclarationPlace where
  | statement (inBody : Bool)
  | clause
  deriving DecidableEq, Repr

def declarationWord? : TokenKind → Option DeclarationWord
  | .word "var" => some .var
  | .word "let" => some .let
  | .word "const" => some .const
  | _ => none

/-- What is missing in a declaration without a value. -/
def missingValue? (word : DeclarationWord) (id : Tree) : Option Fault :=
  if !id.isName then some .patternWithoutValue
  else if word == .const then some .constWithoutValue
  else none

def declarator (rules : Rules) (word : DeclarationWord) (place : DeclarationPlace) :
    Reader Tree := do
  let start ← Reader.start
  let id ← rules .pattern
  if ← eat "=" then
    let value ← rules .assignment
    node .declarator start [id, value]
  else
    if place != .clause then
      for f in missingValue? word id do complain f id.start
    node .declarator start [id]

def commaSeparated (element : Reader Tree) : Reader (List Tree) := do
  let first ← element
  loop [first] fun (items : List Tree) => do
    if ← eat "," then return .inl ((← element) :: items)
    return .inr items.reverse

/-- Variables from their first word on; the declaration counts from `start`. -/
def declaration (rules : Rules) (place : DeclarationPlace) (start : Nat) : Reader Tree := do
  let some word := declarationWord? (← curKind) | unexpected
  advance
  let items ← commaSeparated (declarator rules word place)
  if place != .clause then semicolon
  if place == .statement true && word != .var then complain .lexicalInBody start
  node (.declaration word) start items

def usingDeclaration (rules : Rules) (inLoop : Bool) : Reader Tree := do
  let start ← Reader.start
  let isAwait ← eat "await"
  expect "using"
  let first ← cur
  if first.afterNewline then complain .newlineAfterUsing first.start
  if first.is "await" then
    complain .awaitAfterUsing first.start
    advance
  let word := if isAwait then DeclarationWord.awaitUsing else .using
  let items ← commaSeparated do
    let d ← declarator rules word (.statement false)
    for id in d.parts.head? do
      if !id.isName then complain .usingPattern id.start
      if d.parts.length == 1 && !inLoop then complain .usingWithoutValue id.start
    return d
  node (.declaration word) start items

def usingStatement (rules : Rules) : Reader Tree := do
  let d ← usingDeclaration rules false
  semicolon
  node d.kind d.start d.parts

def atUsing : Reader Bool := do
  if ← at_ "using" then return (← peekKind).isVariable
  if ← at_ "await" <&&> peekAt "using" then return (← peekSecond).kind.isVariable
  return false

/-- A statement that begins with `let`, which may also be a name. -/
def letStatement (rules : Rules) (inBody : Bool) : Reader Tree := do
  let start ← Reader.start
  let next ← peekKind
  if next.isAssignment || next.isBinary then expressionStatement start (← rules .assignment)
  else if next.is "." || next.is "(" then
    let e ← expression rules
    node .expressionStatement start [e]
  else if (inBody && !next.is "[") || next.is ";" then
    expressionStatement start (← variableName)
  else declaration rules (.statement inBody) start

def functionStatement (rules : Rules) (inBody : Bool) : Reader Tree := do
  let f ← functionFrom rules .statement true (← Reader.start)
  if inBody then
    match f.kind with
    | .function _ true _ => complain .asyncInBody f.start
    | .function _ false true => complain .generatorInBody f.start
    | _ => pure ()
  return f

def classStatement (rules : Rules) (inBody : Bool) (start : Nat) : Reader Tree := do
  let c ← classFrom rules .statement start
  if inBody then complain .classInBody start
  return c

/-! ## Branches and jumps -/

def ifStatement (rules : Rules) : Reader Tree := do
  let start ← Reader.start
  advance
  let test ← condition rules
  let yes ← bodyStatement rules
  let no ← if ← eat "else" then
      let s ← bodyStatement rules
      pure [s]
    else pure []
  node .ifStatement start (test :: yes :: no)

def caseTest (rules : Rules) : Reader (List Tree) := do
  if ← eat "default" then return []
  if !(← eat "case") then unexpected
  return [← expression rules]

def switchCase (rules : Rules) : Reader Tree := do
  let start ← Reader.start
  let test ← caseTest rules
  expect ":"
  let items ← sequenceUntil (·.isOneOf ["case", "default", "\x7d"]) (rules (.statement false))
  node .switchCase start (test ++ items)

def switchStatement (rules : Rules) : Reader Tree := do
  let start ← Reader.start
  advance
  let e ← condition rules
  expect "\x7b"
  let cases ← sequenceUntil closesBlock (switchCase rules)
  expect "\x7d"
  node .switchStatement start (e :: cases)

def withStatement (rules : Rules) : Reader Tree := do
  let start ← Reader.start
  advance
  let e ← condition rules
  let body ← bodyStatement rules
  node .withStatement start [e, body]

def jumpStatement : Reader Tree := do
  let start ← Reader.start
  advance
  let target ← if ← canEndStatement then pure []
    else
      let l ← label
      pure [l]
  semicolon
  node .jump start target

def throwStatement (rules : Rules) : Reader Tree := do
  let start ← Reader.start
  advance
  if (← cur).afterNewline then complain .newlineAfterThrow start
  let e ← expression rules
  semicolon
  node .throwStatement start [e]

def returnStatement (rules : Rules) : Reader Tree := do
  let start ← Reader.start
  advance
  let value ← if ← canEndStatement then
      let _ ← eat ";"
      pure []
    else
      let e ← withIn (expression rules)
      semicolon
      pure [e]
  if !(← context).allowReturn then complain .returnOutsideFunction start
  node .returnStatement start value

def catchClause (rules : Rules) : Reader Tree := do
  let start ← Reader.start
  expect "catch"
  let bound ← if ← eat "(" then
      let p ← rules .pattern
      expect ")"
      pure [p]
    else pure []
  let body ← block rules
  node (.catchClause !bound.isEmpty) start (bound ++ [body])

def tryStatement (rules : Rules) : Reader Tree := do
  let start ← Reader.start
  advance
  let body ← block rules
  let handler ← if ← at_ "catch" then
      let c ← catchClause rules
      pure [c]
    else pure []
  let final ← if ← eat "finally" then
      let b ← block rules
      pure [b]
    else pure []
  if handler.isEmpty && final.isEmpty then refuse .missingCatch body.stop
  node .tryStatement start (body :: handler ++ final)

def debuggerStatement : Reader Tree := do
  let start ← Reader.start
  advance
  semicolon
  node .debuggerStatement start []

/-! ## Loops -/

def doLoop (rules : Rules) : Reader Tree := do
  let start ← Reader.start
  advance
  let body ← bodyStatement rules
  expect "while"
  let test ← condition rules
  let _ ← eat ";"
  node .doLoop start [body, test]

def whileLoop (rules : Rules) : Reader Tree := do
  let start ← Reader.start
  advance
  let test ← condition rules
  let body ← bodyStatement rules
  node .whileLoop start [test, body]

def countedLoop (rules : Rules) (start : Nat) (isAwait : Bool) (init : List Tree) :
    Reader Tree := do
  let part (done : Bool) : Reader (List Tree) := do
    if done then return []
    let e ← withIn (expression rules)
    return [e]
  expect ";"
  let test ← part ((← at_ ";") || (← at_ ")"))
  expect ";"
  let update ← part (← at_ ")")
  expect ")"
  if isAwait then complain .forAwaitWithoutOf start
  let body ← bodyStatement rules
  node .forLoop start (init ++ test ++ update ++ [body])

def elementLoop (rules : Rules) (start : Nat) (isAwait : Bool) (left : Tree) : Reader Tree := do
  let isIn ← at_ "in"
  advance
  let right ← if isIn then expression rules else rules .assignment
  expect ")"
  if isAwait && isIn then complain .forAwaitWithoutOf start
  let body ← bodyStatement rules
  node (if isIn then .forIn else .forOf isAwait) start [left, right, body]

def atElementLoop : Reader Bool := return (← at_ "in") || (← at_ "of")

def declaringLoop (rules : Rules) (start : Nat) (isAwait : Bool) : Reader Tree := do
  let d ← within ({ · with allowIn := false }) (declaration rules .clause (← Reader.start))
  if ← atElementLoop then elementLoop rules start isAwait d
  else countedLoop rules start isAwait [d]

def usingLoop (rules : Rules) (start : Nat) (isAwait : Bool) : Reader Tree := do
  let d ← usingDeclaration rules true
  if ← at_ "in" then
    complain (if d.kind == .declaration .awaitUsing then .awaitUsingInForIn else .usingInForIn)
      d.start
  if ← atElementLoop then elementLoop rules start isAwait d
  else countedLoop rules start isAwait [d]

def plainLoop (rules : Rules) (start : Nat) (isAwait : Bool) : Reader Tree := do
  let first ← cur
  let asyncOf ← pure (first.is "async" && !first.escaped) <&&> peekAt "of"
  let e ← within ({ · with allowIn := false }) (expression rules)
  if ← atElementLoop then
    let left ← orRefuse (assignmentTarget e) .unexpectedToken first.start
    if asyncOf && !isAwait then complain .forOfAsync first.start
    elementLoop rules start isAwait left
  else countedLoop rules start isAwait [e]

def forStatement (rules : Rules) : Reader Tree := do
  let start ← Reader.start
  advance
  let isAwait ← if (← context).inAsync then eat "await" else pure false
  expect "("
  match (← curKind) with
  | .sign ";" => countedLoop rules start isAwait []
  | .sign ")" => countedLoop rules start isAwait []
  | .word "const" => declaringLoop rules start isAwait
  | .word "var" => declaringLoop rules start isAwait
  | .word "let" =>
    if (← peekKind).followsLet then declaringLoop rules start isAwait
    else plainLoop rules start isAwait
  | .word "await" =>
    if ← peekAt "using" then usingLoop rules start isAwait else plainLoop rules start isAwait
  | .word "using" =>
    if (← peekKind) == .name then usingLoop rules start isAwait
    else plainLoop rules start isAwait
  | _ => plainLoop rules start isAwait

end PluginAudit.Script.Grammar
