import PluginAudit.Script.Grammar.Functions
import PluginAudit.Script.Grammar.Modifiers

/-!
# Types

The interfaces of a class, and what it extends, may be applied to types. A script gives them no
meaning and has no annotations, so types are read for their literals only.
-/

namespace PluginAudit.Script.Grammar

open Reader

def typeNode (start : Nat) (parts : List Tree) : Reader Tree := node .type start parts

def dottedName : Reader Unit := do
  let _ ← nameText
  loop () fun () => do
    if !(← eat ".") then return .inr ()
    let _ ← nameText
    return .inl ()

/-- Takes the first `<` off a longer sign. -/
def splitAngle : Reader Unit := do
  let s ← get
  let t := s.token
  if t.kind.isOneOf ["<<", "<<=", "<="] then
    set { s with
      token := { t with kind := .sign "<", stop := t.start + 1, raw := t.raw.take 1 }
      scan := { s.scan with rest := t.raw.drop 1 ++ s.scan.rest, offset := t.start + 1 }
      ahead := [] }

def typeArguments (rules : Rules) : Reader (List Tree) := do
  splitAngle
  if !(← eat "<") then return []
  let items ← list ">" false (rules (.type true))
  expect ">"
  return items

/-- Type arguments, which have to stand on the line of what they are for. -/
def typeArgumentsOnLine (rules : Rules) : Reader (List Tree) := do
  if (← cur).afterNewline then return [] else typeArguments rules

def typeReference (rules : Rules) : Reader Tree := do
  let start ← Reader.start
  dottedName
  typeNode start (← typeArgumentsOnLine rules)

/-! ## Functions -/

/-- Tries a reader and says whether it noted no fault. -/
def passesCleanly (r : Reader α) : Reader Bool := do
  let before ← get
  match ← attempt r with
  | some _ => return (← get).faults.length == before.faults.length
  | none => return false

def passParameterStart (rules : Rules) : Reader Bool := do
  let _ ← modifiers false []
  let k ← curKind
  if k.isPlainVariable || k.is "this" then
    advance
    return true
  if !k.isOneOf ["[", "\x7b"] then return false
  passesCleanly (rules .pattern)

def opensParameters (rules : Rules) : Reader Bool := ahead do
  advance
  if (← curKind).isOneOf [")", "..."] then return true
  if !(← passParameterStart rules) then return false
  if (← curKind).isOneOf [":", ",", "?", "="] then return true
  eat ")" <&&> at_ "=>"

def atFunctionType (rules : Rules) : Reader Bool := do
  let k ← curKind
  if k.isOneOf ["<", "new"] then return true
  if k.is "(" then return ← opensParameters rules
  pure (k.is "abstract") <&&> peekAt "new"

def predicatePrefix : Reader Unit := do
  let _ ← nameText
  let t ← cur
  if t.is "is" && !t.afterNewline then advance else unexpected

def functionType (rules : Rules) : Reader Tree := do
  let start ← Reader.start
  let _ ← eat "abstract"
  let _ ← eat "new"
  let ps ← parameters rules
  expect "=>"
  if (← curKind).isNameText then
    let _ ← attempt predicatePrefix
  typeNode start [ps, ← rules (.type true)]

/-! ## Objects and tuples -/

/-- `[name: …]` gives the type of an index. -/
def atIndexSignature : Reader Bool := do
  if !(← at_ "[") then return false
  if !(← peekKind).isPlainVariable then return false
  return (← peekSecond).is ":"

/-- An index needs an annotation, which scripts do not have. -/
def indexSignature : Reader α := do
  expect "["
  let _ ← nameText
  unexpected

/-- Passes a word such as `readonly` that stands before the key it applies to. -/
def passBeforeKey (words : List String) : Reader Bool := do
  if !(← curKind).isOneOf words then return false
  let next ← peek
  if next.is "[" || next.kind.isLiteralKey then
    advance
    return true
  return false

def typeMember (rules : Rules) : Reader Tree := do
  let start ← Reader.start
  if ← atIndexSignature then indexSignature
  let bare ← pure ((← curKind).isOneOf ["(", "<"]) <||>
    (at_ "new" <&&> (return (← peekKind).isOneOf ["(", "<"]))
  let named ← if bare then
      let _ ← eat "new"
      pure []
    else
      let _ ← passBeforeKey ["get", "set"] <||> passBeforeKey ["readonly"]
      let k ← key rules
      let _ ← eat "?"
      pure [k.tree]
  let ps ← if bare || (← curKind).isOneOf ["(", "<"] then
      let ps ← parameters rules
      pure [ps]
    else pure []
  let _ ← eat "," <||> eat ";"
  typeNode start (named ++ ps)

def objectType (rules : Rules) : Reader Tree := do
  let start ← Reader.start
  expect "\x7b"
  let items ← loop [] fun (items : List Tree) => do
    if (← at_ "\x7d") || (← atEnd) then return .inr items.reverse
    return .inl ((← typeMember rules) :: items)
  expect "\x7d"
  typeNode start items

def atMappedType : Reader Bool := ahead do
  advance
  if ← eat "+" <||> eat "-" then return ← at_ "readonly"
  let _ ← eat "readonly"
  if !(← eat "[") then return false
  if !(← curKind).isPlainVariable then return false
  advance
  at_ "in"

def mappedType (rules : Rules) : Reader Tree := do
  let start ← Reader.start
  expect "\x7b"
  let _ ← eat "+" <||> eat "-"
  let _ ← eat "readonly"
  expect "["
  let _ ← boundName
  expect "in"
  let keys ← rules (.type true)
  let renamed ← if ← eat "as" then
      let t ← rules (.type true)
      pure [t]
    else pure []
  expect "]"
  if ← eat "+" <||> eat "-" then expect "?" else
    let _ ← eat "?"
  let values ← if ← eat ":" then
      let t ← rules (.type true)
      pure [t]
    else pure []
  let _ ← eat ";"
  expect "\x7d"
  typeNode start (keys :: renamed ++ values)

def passElementName : Reader Unit := do
  let _ ← eat "..."
  let _ ← nameText
  let _ ← eat "?"
  expect ":"

def tupleElement (rules : Rules) : Reader Tree := do
  let _ ← attempt passElementName
  let _ ← eat "..."
  rules (.type true)

def tupleType (rules : Rules) : Reader Tree := do
  let start ← Reader.start
  expect "["
  let items ← list "]" true (tupleElement rules)
  expect "]"
  typeNode start items

/-! ## Operands -/

def importedType (rules : Rules) : Reader Tree := do
  let start ← Reader.start
  expect "import"
  expect "("
  let source ← rules (.type true)
  expect ")"
  if ← eat "." then dottedName
  typeNode start (source :: (← typeArgumentsOnLine rules))

def queriedType (rules : Rules) : Reader Tree := do
  let start ← Reader.start
  advance
  if ← at_ "import" then return ← importedType rules
  dottedName
  typeNode start (← typeArgumentsOnLine rules)

/-- Words for types that are no names of their own, unless a point follows. -/
def typeWords : List String :=
  ["any", "bigint", "boolean", "never", "number", "object", "string", "symbol", "undefined",
   "unknown"]

def literalType : Reader Tree := do
  let t ← cur
  if t.raw.getLast? == some 'n' then leaf (.bigintType t.raw) else numberLiteral

def typeOperand (rules : Rules) : Reader Tree := do
  let start ← Reader.start
  let k ← curKind
  if k == .string then return ← stringLiteral
  if k.isNumber then return ← literalType
  if k.isOneOf ["true", "false", "null", "void"] then return ← leaf .constant
  if k.isOneOf typeWords then
    if ← peekAt "." then return ← typeReference rules
    return ← leaf .type
  match k with
  | .sign "-" =>
    advance
    if (← curKind).isNumber then numberLiteral else unexpected
  | .sign "\x7b" => if ← atMappedType then mappedType rules else objectType rules
  | .sign "[" => tupleType rules
  | .sign "(" =>
    advance
    let t ← rules (.type true)
    expect ")"
    typeNode start [t]
  | .word "this" => leaf .constant
  | .word "typeof" => queriedType rules
  | .word "import" => importedType rules
  | .template .whole => leaf .templateType
  | _ => typeReference rules

/-! ## Types -/

def startsType (k : TokenKind) : Bool :=
  k.isPlainVariable || k.isLiteral || k == .template .whole || k == .template .head ||
    k.isOneOf ["void", "this", "typeof", "new", "import", "function", "\x7b", "[", "<", "|", "&",
      "*", "?", "!", "...", "("]

/-- A type with what follows it: an index, `[]` for lists, or a mark for what may be missing. -/
def postfixType (rules : Rules) : Reader Tree := do
  let start ← Reader.start
  let first ← typeOperand rules
  loop first fun t => do
    let sign ← cur
    if sign.afterNewline then return .inr t
    if sign.is "!" then
      advance
      return .inl t
    if sign.is "?" then
      if startsType (← peekKind) then return .inr t
      advance
      return .inl t
    if sign.is "[" then
      advance
      if !(startsType (← curKind)) && !(← at_ "-") then
        expect "]"
        return .inl t
      let index ← rules (.type true)
      expect "]"
      return .inl (← typeNode start [t, index])
    return .inr t

/-- A type to be found, and what it extends; `conditional` as in the rule for types. -/
def inferredType (rules : Rules) (conditional : Bool) : Reader Tree := do
  let start ← Reader.start
  advance
  let _ ← boundName
  let bound ← attempt do
    expect "extends"
    let t ← rules (.type false)
    if conditional && (← at_ "?") then unexpected
    return t
  typeNode start bound.toList

def prefixType (rules : Rules) (conditional : Bool) : Reader Tree := do
  loop () fun () => do
    if !(← curKind).isOneOf ["keyof", "unique", "readonly"] then return .inr ()
    advance
    return .inl ()
  if ← at_ "infer" then inferredType rules conditional else postfixType rules

def joinedTypes (sign : String) (element : Reader Tree) : Reader Tree := do
  let start ← Reader.start
  let _ ← eat sign
  let first ← element
  let all ← loop [first] fun (items : List Tree) => do
    if ← eat sign then return .inl ((← element) :: items)
    return .inr items.reverse
  typeNode start all

def typeExpression (rules : Rules) (conditional : Bool) : Reader Tree := do
  let start ← Reader.start
  if ← atFunctionType rules then return ← functionType rules
  let t ← joinedTypes "|" (joinedTypes "&" (prefixType rules conditional))
  if !conditional || (← cur).afterNewline || !(← at_ "extends") then return t
  advance
  let bound ← rules (.type false)
  expect "?"
  let yes ← rules (.type true)
  expect ":"
  let no ← rules (.type true)
  typeNode start [t, bound, yes, no]

end PluginAudit.Script.Grammar
