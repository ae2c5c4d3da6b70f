import PluginAudit.Script.Grammar.Types

/-!
# Classes
-/

namespace PluginAudit.Script.Grammar

open Reader

def interfaceNames (rules : Rules) : Reader (List Tree) := do
  loop [] fun (items : List Tree) => do
    let start ← Reader.start
    dottedName
    let types ← typeArguments rules
    let items := (← typeNode start types) :: items
    if ← eat "," then return .inl items else return .inr items.reverse

def appliedBase (rules : Rules) : Reader (List Tree) := do
  let base ← rules .operand
  return base :: (← typeArguments rules)

/-- What a class extends and implements. Of several bases only the first counts. -/
def heritage (rules : Rules) : Reader (List Tree) := do
  let all ← loop ((none, []) : Option (List Tree) × List Tree) fun (base, types) => do
    let t ← cur
    if t.is "extends" then
      if base.isSome then refuse .repeatedExtends t.start
      advance
      let first ← appliedBase rules
      loop () fun () => do
        if !(← eat ",") then return .inr ()
        let _ ← appliedBase rules
        return .inl ()
      return .inl (some first, types)
    else if t.is "implements" then
      advance
      return .inl (base, types ++ (← interfaceNames rules))
    else return .inr (base, types)
  return all.1.getD [] ++ all.2

def fieldValue (value : Reader Tree) : Reader (List Tree) := do
  if ← eat "=" then return [← value] else return []

structure MemberHead where
  isStatic : Bool
  async : Bool
  generator : Bool
  form : PropertyForm
  key : Key

def beforeMemberKey (starAllowed : Bool) : Reader Bool := do
  let next ← peek
  return next.kind.isMemberStart || (starAllowed && next.is "*")

def memberKey (rules : Rules) (ms : List Modifier) : Reader Key := do
  for m in ms.find? (·.word == "const") do complain .constMember m.start
  let t ← cur
  if t.kind == .privateName then
    let name ← privateName
    if t.value == some "constructor" then complain .privateConstructor t.start
    return ⟨name, false, none⟩
  key rules

/-- Passes a word before a key; if it does not count as one, it is the key itself. -/
def wordOrKey (rules : Rules) (ms : List Modifier) (counts : Reader Bool) :
    Reader (Bool × Option Key) := do
  if ← counts then
    advance
    return (true, none)
  return (false, some (← memberKey rules ms))

def memberStatic (rules : Rules) (ms : List Modifier) : Reader (Bool × Option Key) := do
  if !(← at_ "static") then return (false, none)
  wordOrKey rules ms (beforeMemberKey true)

/-- `async`, unless the key is `found` already. -/
def memberAsync (rules : Rules) (ms : List Modifier) (found : Option Key) :
    Reader (Bool × Option Key) := do
  if !(← pure found.isNone <&&> at_ "async" <&&> not <$> peekAt "?") then return (false, found)
  wordOrKey rules ms do
    return !(← peek).afterNewline && (← beforeMemberKey true)

def memberForm : Reader PropertyForm := do
  if ← at_ "get" <&&> beforeMemberKey false then
    advance
    return .getter
  if ← at_ "set" <&&> beforeMemberKey false then
    advance
    return .setter
  if !(← curKind).isMemberStart then unexpected
  return .value

def memberHead (rules : Rules) (ms : List Modifier) : Reader MemberHead := do
  let (isStatic, found) ← memberStatic rules ms
  let (async, found) ← memberAsync rules ms found
  let isStatic := isStatic || ms.any (·.word == "static")
  let async := async || ms.any (·.word == "async")
  if ← atIndexSignature then indexSignature
  match found with
  | some key => return ⟨isStatic, async, false, .value, key⟩
  | none =>
    let generator ← eat "*"
    let form ← if async || generator then pure .value else memberForm
    return ⟨isStatic, async, generator, form, ← memberKey rules ms⟩

def memberMarks (isAccessor : Bool) : Reader Unit := do
  let at_ ← Reader.start
  let optional ← eat "?"
  let definite ← eat "!"
  if optional && definite then complain .optionalDefinite at_
  if optional && isAccessor then complain .optionalAccessor at_

def checkMethod (h : MemberHead) : Reader Unit := do
  let at_ := h.key.tree.start
  if !h.key.computed then
    if h.isStatic && h.key.spelled == some "prototype" then complain .staticPrototype at_
    if !h.isStatic && h.key.spelled == some "constructor" then
      if h.form == .getter || h.form == .setter then complain .accessorConstructor at_
      if h.async then complain .asyncConstructor at_
      if h.generator then complain .generatorConstructor at_

def checkField (h : MemberHead) : Reader Unit := do
  let at_ := h.key.tree.start
  if !h.key.computed then
    if h.key.spelled == some "constructor" then complain .constructorField at_
    if h.isStatic && h.key.spelled == some "prototype" then complain .staticPrototype at_

def staticBlock (rules : Rules) (start : Nat) : Reader Tree := do
  advance
  let items ← within (fun c =>
      { c with inAsync := true, inGenerator := false, allowReturn := false }) do
    expect "\x7b"
    let items ← loop [] fun (items : List Tree) => do
      if (← at_ "\x7d") || (← atEnd) then return .inr items.reverse
      return .inl ((← rules (.statement false)) :: items)
    expect "\x7d"
    return items
  node .staticBlock start items

def member (rules : Rules) : Reader Tree := do
  let start ← Reader.start
  let ms ← memberModifiers rules
  if ← at_ "static" <&&> peekAt "\x7b" then return ← staticBlock rules start
  let isAccessor := ms.any (·.word == "accessor")
  let head ← memberHead rules ms
  memberMarks isAccessor
  if isAccessor then
    let value ← fieldValue (rules .assignment)
    let ds ← takeDecorators
    node .accessorField start (ds ++ head.key.tree :: value)
  else if (← at_ "(") || (← at_ "<") || head.async || head.generator then
    checkMethod head
    let ds ← takeDecorators
    let f ← method rules .method head.async head.generator
    node .method start (ds ++ [head.key.tree, f])
  else
    if head.form != .value then unexpected
    checkField head
    let ds ← takeDecorators
    let value ← fieldValue (expression rules)
    semicolon
    node .field start (ds ++ head.key.tree :: value)

def members (rules : Rules) : Reader (List Tree) := do
  expect "\x7b"
  let all ← loop [] fun (items : List Tree) => do
    if (← at_ "\x7d") || (← atEnd) then return .inr items.reverse
    loop () fun () => do
      if ← eat ";" then return .inl () else return .inr ()
    if ← at_ "\x7d" then return .inr items.reverse
    return .inl ((← member rules) :: items)
  expect "\x7d"
  return all

/-- A class from the word `class` on. It counts from `start`, but a class that is an expression from
the first decorator that waits for it. -/
def classFrom (rules : Rules) (place : Place) (start : Nat) : Reader Tree := do
  advance
  let ds ← takeDecorators
  let name ← if (← curKind).isVariable && !(← at_ "implements") then
      let n ← boundName
      pure [n]
    else pure []
  let base ← heritage rules
  let all ← members rules
  let start := match place, ds with
    | .expression, d :: _ => d.start
    | _, _ => start
  node (.classDefinition place) start (ds ++ name ++ base ++ all)

end PluginAudit.Script.Grammar
