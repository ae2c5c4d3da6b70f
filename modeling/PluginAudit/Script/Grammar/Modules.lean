import PluginAudit.Script.Grammar.Statements

/-!
# Imports and exports

They are read in scripts too, where they stand as statements.
-/

namespace PluginAudit.Script.Grammar

open Reader

def beginsWithHalf (cs : List Char) : Bool :=
  match (cs.take 4).mapM Text.hexValue? with
  | some [a, b, c, d] =>
    let n := ((a * 16 + b) * 16 + c) * 16 + d
    Lexer.isHighHalf n || Lexer.isLowHalf n
  | _ => false

/-- Whether a string holds half of a surrogate pair, as the lexer leaves it: a backslash, `u` and
the number. A backslash takes the character after it along. -/
def holdsHalf : List Char → Bool
  | '\\' :: c :: cs => (c == 'u' && beginsWithHalf cs) || holdsHalf cs
  | _ :: cs => holdsHalf cs
  | [] => false

def stringName : Reader Tree := do
  let t ← cur
  let name ← stringLiteral
  if t.value.any (holdsHalf ·.toList) then complain .exportedHalf t.start
  return name

def interfaceName : Reader Tree := do
  if (← curKind) == .string then stringName else nameText

def importAttribute : Reader Tree := do
  let start ← Reader.start
  let name ← if (← curKind) == .string then stringLiteral else nameText
  expect ":"
  let value ← stringLiteral
  node .attribute start [name, value]

def importAttributes : Reader (List Tree) := do
  let t ← cur
  if !(t.is "with" || (t.is "assert" && !t.afterNewline)) then return []
  advanceName
  expect "\x7b"
  let items ← list "\x7d" true importAttribute
  expect "\x7d"
  return items

def importSpecifier : Reader Tree := do
  let start ← Reader.start
  if ← peekAt "as" then
    let outer ← interfaceName
    expect "as"
    let name ← boundName
    node .specifier start [outer, name]
  else
    let name ← boundName
    node .specifier start [name]

def importAll : Reader Tree := do
  let start ← Reader.start
  expect "*"
  expect "as"
  let name ← boundName
  node .specifier start [name]

def importNamed : Reader (List Tree) := do
  expect "\x7b"
  let items ← list "\x7d" true importSpecifier
  expect "\x7d"
  return items

def importSpecifiers : Reader (List Tree) := do
  let t ← cur
  if t.is "*" then return [← importAll]
  if t.is "\x7b" then return ← importNamed
  let name ← boundName
  let first ← node .specifier t.start [name]
  if !(← eat ",") then return [first]
  if ← at_ "*" then return [first, ← importAll]
  if ← at_ "\x7b" then return first :: (← importNamed)
  unexpected

def importDeclaration : Reader Tree := do
  let start ← Reader.start
  advance
  let items ← if (← curKind) == .string then pure []
    else
      let items ← importSpecifiers
      expect "from"
      pure items
  let source ← stringLiteral
  let attributes ← importAttributes
  semicolon
  node .importDeclaration start (items ++ source :: attributes)

/-- An exported name: why it cannot stand for a variable, and the tree. -/
def exportedName : Reader (Option FaultAt × Tree) := do
  let t ← cur
  if t.kind == .string then return (some ⟨.exportedString, t.start⟩, ← stringName)
  let strict := t.value.elim false strictWords.contains
  let name ← nameText
  if t.kind.isReserved || strict then return (some ⟨.exportedReserved, t.start⟩, name)
  return (none, name)

def exportSpecifier : Reader (Option FaultAt × Tree) := do
  let start ← Reader.start
  let (fault, name) ← exportedName
  if ← eat "as" then
    let outer ← interfaceName
    return (fault, ← node .specifier start [name, outer])
  return (fault, ← node .specifier start [name])

def exportPairs : Reader (List (Option FaultAt × Tree)) := do
  loop [] fun (items : List (Option FaultAt × Tree)) => do
    if (← at_ "\x7d") || (← atEnd) then return .inr items.reverse
    if !items.isEmpty then
      expect ","
      if ← at_ "\x7d" then return .inr items.reverse
    return .inl ((← exportSpecifier) :: items)

def exportNames (start : Nat) : Reader Tree := do
  expect "\x7b"
  let pairs ← exportPairs
  expect "\x7d"
  let source ← if ← eat "from" then
      let s ← stringLiteral
      let attributes ← importAttributes
      pure (s :: attributes)
    else
      for (fault, _) in pairs do
        for f in fault do complain f.fault f.offset
      pure []
  semicolon
  node .exportNamed start (pairs.map (·.2) ++ source)

def exportAll (start : Nat) : Reader Tree := do
  expect "*"
  let name ← if ← eat "as" then
      let n ← interfaceName
      pure [n]
    else pure []
  expect "from"
  let source ← stringLiteral
  let attributes ← importAttributes
  semicolon
  node .exportAll start (name ++ source :: attributes)

def exportedValue (rules : Rules) (start : Nat) : Reader Tree := do
  if ← at_ "class" then return ← classFrom rules .export start
  if ← atFunction then return ← functionFrom rules .export false (← Reader.start)
  let e ← rules .assignment
  semicolon
  return e

def exportDefault (rules : Rules) (start : Nat) : Reader Tree := do
  let word ← wordLeaf
  let inside ← Reader.start
  decorators rules
  let value ← exportedValue rules inside
  node .exportDefault start [word, value]

def exportedStatement (rules : Rules) (start : Nat) : Reader Tree := do
  if ← at_ "class" then return ← classFrom rules .export start
  if ← atFunction then return ← functionFrom rules .export true (← Reader.start)
  declaration rules .clause start

def exportedDeclaration (rules : Rules) (start : Nat) : Reader Tree := do
  let inside ← Reader.start
  decorators rules
  let value ← exportedStatement rules inside
  node .exportNamed start [value]

def exportDeclaration (rules : Rules) : Reader Tree := do
  let start ← Reader.start
  advance
  if ← at_ "default" then exportDefault rules start
  else if ← at_ "*" then exportAll start
  else if ← at_ "\x7b" then exportNames start
  else exportedDeclaration rules start

end PluginAudit.Script.Grammar
