import PluginAudit.Script.Grammar.Modules

/-!
# Scripts

`Script.read` reads a text as a script, and gives its tree or all faults found.
-/

namespace PluginAudit.Script

namespace Grammar

open Reader

def labelledOrExpression (rules : Rules) : Reader Tree := do
  let start ← Reader.start
  let e ← expression rules
  if e.isName && (← at_ ":") then
    advance
    let body ← bodyStatement rules
    node .labelled start [e, body]
  else expressionStatement start e

def statement (rules : Rules) (inBody : Bool) : Reader Tree := do
  let start ← Reader.start
  decorators rules
  if ← atFunction then return ← functionStatement rules inBody
  if ← atUsing then return ← usingStatement rules
  let t ← cur
  match t.kind with
  | .sign "\x7b" => block rules
  | .sign ";" => leaf .emptyStatement
  | .word "if" => ifStatement rules
  | .word "do" => doLoop rules
  | .word "while" => whileLoop rules
  | .word "for" => forStatement rules
  | .word "continue" => jumpStatement
  | .word "break" => jumpStatement
  | .word "return" => returnStatement rules
  | .word "with" => withStatement rules
  | .word "switch" => switchStatement rules
  | .word "throw" => throwStatement rules
  | .word "try" => tryStatement rules
  | .word "debugger" => debuggerStatement
  | .word "class" => classStatement rules inBody start
  | .word "export" => exportDeclaration rules
  | .word "var" => declaration rules (.statement inBody) t.start
  | .word "const" => declaration rules (.statement inBody) t.start
  | .word "let" =>
    if t.escaped then labelledOrExpression rules else letStatement rules inBody
  | .word "import" =>
    let next ← peek
    if next.is "." || next.is "(" then labelledOrExpression rules else importDeclaration
  | _ => labelledOrExpression rules

/-- The rules of the grammar, calling each other at most `n` deep. -/
def rules : Nat → Rules
  | 0, _ => throw .exhausted
  | n + 1, .assignment => assignmentExpression (rules n)
  | n + 1, .binary min => binaryExpression (rules n) min
  | n + 1, .unary start => unary (rules n) start
  | n + 1, .type conditional => typeExpression (rules n) conditional
  | n + 1, .operand => operand (rules n)
  | n + 1, .primary => primary (rules n)
  | n + 1, .pattern => pattern (rules n)
  | n + 1, .statement inBody => statement (rules n) inBody

/-- Deeper than the rules nest in a text of this length: each step down passes at most seven
rules before it takes a token. -/
def depth (text : List Char) : Nat := 8 * (text.length + 8)

def program (rules : Rules) : Reader Tree := do
  let t ← cur
  let bang ← if t.kind == .hashbang then
      let b ← leaf .hashbang
      pure [b]
    else pure []
  let items ← statements rules false
  node .program 0 (bang ++ items)

end Grammar

def Context.script (allowReturn : Bool) : Context where
  allowIn := true
  inGenerator := false
  inAsync := false
  allowReturn := allowReturn
  inDecorator := false

namespace ReadState

/-- All faults after a run: those of the lexer, those of the grammar and the one that ended the
run, and properties `a = 1` that belong to no pattern. -/
def allFaults (s : ReadState) (last : List FaultAt) : List FaultAt :=
  s.scan.faults.reverse ++ (s.faults.reverse ++ last) ++ s.loose.map (⟨.shorthandDefault, ·⟩)

/-- The faults to report. A text for Flow has this one fault if it has any. -/
def reported (s : ReadState) (last : List FaultAt) : List FaultAt :=
  match s.allFaults last, s.scan.comment with
  | _ :: _, some ⟨start, true⟩ => [⟨.flow, start⟩]
  | faults, _ => faults

end ReadState

/-- A text that is no script. Without faults, its reader gave up. -/
structure Rejected where
  faults : List FaultAt
  deriving DecidableEq, Repr

/-- Reads a text as a script. `allowReturn` permits `return` outside functions. -/
def read (allowReturn : Bool) (text : List Char) : Except Rejected Tree :=
  let run := Grammar.program (Grammar.rules (Grammar.depth text))
  match run (ReadState.ofText (Context.script allowReturn) text) with
  | .ok tree s =>
    match s.reported [] with
    | [] => .ok tree
    | faults => .error ⟨faults⟩
  | .error (.fault f) s => .error ⟨s.reported [f]⟩
  | .error .exhausted s => .error ⟨s.reported []⟩

end PluginAudit.Script
