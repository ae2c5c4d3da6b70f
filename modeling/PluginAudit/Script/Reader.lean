import PluginAudit.Script.Lexer
import PluginAudit.Script.Tree

/-!
# Readers of scripts

A `Reader` walks over the tokens of a text. Some faults are noted and reading goes on; others end
it. A reader can look ahead, and a failed attempt can be undone, with all it noted.
-/

namespace PluginAudit.Script

structure Context where
  allowIn : Bool
  inGenerator : Bool
  inAsync : Bool
  allowReturn : Bool
  inDecorator : Bool
  deriving DecidableEq, Repr

/-- Why a reader ended early. -/
inductive Stop where
  | fault (f : FaultAt)
  /-- The bound on recursion was met. -/
  | exhausted
  deriving DecidableEq, Repr

structure ReadState where
  context : Context
  scan : Scan
  /-- Tokens read ahead, each with the place after it. -/
  ahead : List (Token × List Char × Nat)
  token : Token
  /-- The end of the token before. -/
  lastStop : Nat
  /-- Newest first. -/
  faults : List FaultAt
  /-- Decorators read and not yet attached to anything. -/
  decorators : List Tree
  /-- Starts of properties `a = 1` that are wrong unless read again as part of a pattern. -/
  loose : List Nat
  /-- Starts of parentheses known not to open the parameters of an arrow function. -/
  notArrow : List Nat
  deriving Repr

abbrev Reader := EStateM Stop ReadState

namespace ReadState

/-- The state `before` an attempt that ended in `s` and is undone. -/
def rewind (s before : ReadState) : ReadState :=
  { before with
    scan := { before.scan with comment := s.scan.comment }
    ahead := []
    decorators := s.decorators
    loose := s.loose
    notArrow := s.notArrow }

def lex (s : ReadState) (m : Lexer.ScanM α) : α × ReadState :=
  let (a, scan) := m s.scan
  (a, { s with scan := scan })

def advance (s : ReadState) : ReadState :=
  let s := { s with lastStop := s.token.stop }
  match s.ahead with
  | (t, rest, offset) :: ahead =>
    { s with token := t, ahead := ahead, scan := { s.scan with rest := rest, offset := offset } }
  | [] =>
    let (t, s) := s.lex (Lexer.token false)
    { s with token := t }

def ofText (c : Context) (text : List Char) : ReadState :=
  let (t, scan) := Lexer.token true (Scan.ofText text)
  ⟨c, scan, [], t, 0, [], [], [], []⟩

def readAhead (s : ReadState) : Token × ReadState :=
  let here := s.scan
  let from_ := match s.ahead.getLast? with
    | some (_, rest, offset) => { here with rest := rest, offset := offset }
    | none => here
  let (t, scan) := Lexer.token false from_
  (t, { s with
    ahead := s.ahead ++ [(t, scan.rest, scan.offset)]
    scan := { scan with rest := here.rest, offset := here.offset } })

end ReadState

namespace Reader

/-- More than the number of characters of the text: a bound for loops. -/
def limit : Reader Nat := return (← get).scan.limit

def context : Reader Context := return (← get).context

def cur : Reader Token := return (← get).token

def curKind : Reader TokenKind := return (← cur).kind

def start : Reader Nat := return (← cur).start

def lastStop : Reader Nat := return (← get).lastStop

def at_ (text : String) : Reader Bool := return (← cur).is text

def atEnd : Reader Bool := return (← curKind) == .endOfText

def peek : Reader Token := do
  let s ← get
  match s.ahead with
  | (t, _) :: _ => return t
  | [] =>
    let (t, s) := s.readAhead
    set s
    return t

def peekKind : Reader TokenKind := return (← peek).kind

def peekAt (text : String) : Reader Bool := return (← peek).is text

def peekSecond : Reader Token := do
  let _ ← peek
  let s ← get
  match s.ahead with
  | _ :: (t, _) :: _ => return t
  | _ =>
    let (t, s) := s.readAhead
    set s
    return t

def complain (f : Fault) (offset : Nat) : Reader Unit :=
  modify fun s => { s with faults := ⟨f, offset⟩ :: s.faults }

/-- Ends reading with a fault. -/
def refuse (f : Fault) (offset : Nat) : Reader α := throw (.fault ⟨f, offset⟩)

/-- Ends reading at a token that cannot stand here. If the lexer refused it, its reason counts. -/
def unexpected : Reader α := do
  let s ← get
  match s.token.kind, s.scan.faults with
  | .unknown, f :: fs =>
    set { s with scan := { s.scan with faults := fs } }
    throw (.fault f)
  | _, _ => refuse .unexpectedToken s.token.start

/-- Moves on; a word with an escape is no word of the language. -/
def advance : Reader Unit := do
  let t ← cur
  if t.escaped && t.kind.isWord then complain .escapedWord t.start
  modify ReadState.advance

/-- Moves on over a word used as a name. -/
def advanceName : Reader Unit := modify ReadState.advance

/-- Reads the current token once more, in the way its place asks for. -/
def rescan (m : Token → Lexer.ScanM Token) : Reader Unit :=
  modify fun s =>
    let (t, s) := s.lex (m s.token)
    { s with token := t, ahead := [] }

def eat (text : String) : Reader Bool := do
  if ← at_ text then
    advance
    return true
  return false

def require (text : String) : Reader Unit := do
  let t ← cur
  if !t.is text then refuse (.expected text t.kind.describe) t.start

def expect (text : String) : Reader Unit := do
  require text
  advance

def canEndStatement : Reader Bool := do
  let t ← cur
  return t.is ";" || t.is "\x7d" || t.kind == .endOfText || t.afterNewline

/-- The end of a statement: a semicolon, or a place where one is implied. -/
def semicolon : Reader Unit := do
  if !(← canEndStatement) then refuse .missingSemicolon (← lastStop)
  let _ ← eat ";"

def setContext (change : Context → Context) : Reader Unit :=
  modify fun s => { s with context := change s.context }

/-- Runs a reader in another context; the one before counts again after it. -/
def within (change : Context → Context) (r : Reader α) : Reader α := fun s =>
  match r { s with context := change s.context } with
  | .ok a s' => .ok a { s' with context := s.context }
  | .error e s' => .error e { s' with context := s.context }

def withIn (r : Reader α) : Reader α := within (fun c => { c with allowIn := true }) r

/-- Tries a reader; a fault undoes it. -/
def attempt (r : Reader α) : Reader (Option α) := fun s =>
  match r s with
  | .ok a s' => .ok (some a) s'
  | .error .exhausted s' => .error .exhausted s'
  | .error (.fault _) s' => .ok none (s'.rewind s)

/-- Runs a reader and undoes it. -/
def ahead (r : Reader α) : Reader α := fun s =>
  match r s with
  | .ok a s' => .ok a (s'.rewind s)
  | .error e s' => .error e s'

/-- Repeats a step until it answers, at most `n` times. -/
def iterate (step : σ → Reader (σ ⊕ α)) : Nat → σ → Reader α
  | 0, _ => throw .exhausted
  | n + 1, a => do
    match ← step a with
    | .inl a => iterate step n a
    | .inr b => return b

def loop (init : σ) (step : σ → Reader (σ ⊕ α)) : Reader α := do
  iterate step (← limit) init

def node (kind : Kind) (start : Nat) (parts : List Tree) : Reader Tree :=
  return .node kind start (← lastStop) parts

def leaf (kind : Kind) : Reader Tree := do
  let t ← cur
  advance
  return .node kind t.start t.stop []

/-- Elements up to `close`, with `,` between them; `trailing` allows one more at the end, which is
otherwise left to the caller. -/
def list (close : String) (trailing : Bool) (element : Reader Tree) : Reader (List Tree) := do
  loop [] fun (items : List Tree) => do
    if (← at_ close) || (← atEnd) then return .inr items.reverse
    if !items.isEmpty then
      if ← pure !trailing <&&> at_ "," <&&> peekAt close then return .inr items.reverse
      expect ","
      if ← at_ close then return .inr items.reverse
    return .inl ((← element) :: items)

end Reader

end PluginAudit.Script
