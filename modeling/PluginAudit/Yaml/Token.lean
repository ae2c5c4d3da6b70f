import PluginAudit.Text.Characters
import PluginAudit.Yaml.Fault

/-!
# Tokens of YAML texts, and the place they are read from
-/

namespace PluginAudit.Yaml

inductive ScalarStyle where
  | plain | quoted | block
  deriving DecidableEq, Repr

inductive TokenKind where
  | streamStart | streamEnd
  | versionDirective (major minor : Nat)
  | tagDirective (handle start : List Char)
  | documentStart | documentEnd
  | blockSequenceStart | blockMappingStart | blockEnd
  | flowSequenceStart | flowSequenceEnd | flowMappingStart | flowMappingEnd
  | blockEntry | flowEntry | key | value
  | aliasName (name : List Char)
  | anchor (name : List Char)
  | tag (handle suffix : List Char)
  | scalar (text : List Char) (style : ScalarStyle)
  deriving DecidableEq, Repr

structure Token where
  kind : TokenKind
  start : Mark
  stop : Mark
  deriving Repr

/-- A token that may turn out to be a key, once a `:` follows it on its line. -/
structure KeyCandidate where
  /-- It can be nothing but a key. -/
  required : Bool
  /-- Its number among all tokens. -/
  number : Nat
  mark : Mark
  deriving Repr

structure Source where
  rest : List Char
  mark : Mark
  /-- Tokens read and not yet taken. -/
  queue : List Token
  taken : Nat
  /-- The column of the innermost block, -1 outside all. -/
  indent : Int
  /-- The columns of the blocks around it. -/
  outer : List Int
  keyAllowed : Bool
  /-- A candidate for each open flow collection, innermost first, and one for the block. -/
  keys : List (Option KeyCandidate)
  flowDepth : Nat
  started : Bool
  limit : Nat
  deriving Repr

abbrev SourceM := EStateM Fault Source

def iterate (step : σ → EStateM Fault S (σ ⊕ α)) : Nat → σ → EStateM Fault S α
  | 0, _ => throw .exhausted
  | n + 1, a => do
    match ← step a with
    | .inl a => iterate step n a
    | .inr b => return b

def Source.ofText (text : List Char) : Source where
  rest := text
  mark := ⟨0, 0, 0⟩
  queue := []
  taken := 0
  indent := -1
  outer := []
  keyAllowed := false
  keys := []
  flowDepth := 0
  started := false
  limit := text.length + 2

/-! ## Characters -/

def isBreak (c : Char) : Bool :=
  c == '\n' || c == '\r' || c.toNat == 0x85 || c.toNat == 0x2028 || c.toNat == 0x2029

def isSpaceOrTab (c : Char) : Bool := c == ' ' || c == '\t'

def isAlpha (c : Char) : Bool := c.isAlphanum || c == '_' || c == '-'

/-- A blank, a line break or the end. -/
def endsWord : Option Char → Bool
  | none => true
  | some c => isSpaceOrTab c || isBreak c

def endsLine : Option Char → Bool
  | none => true
  | some c => isBreak c

namespace SourceM

def mark : SourceM Mark := return (← get).mark

def peek : SourceM (Option Char) := return (← get).rest.head?

def peekAt (n : Nat) : SourceM (Option Char) := return ((← get).rest.drop n).head?

def sees (c : Char) : SourceM Bool := return (← peek) == some c

def seesAt (n : Nat) (c : Char) : SourceM Bool := return (← peekAt n) == some c

def limit : SourceM Nat := return (← get).limit

def inFlow : SourceM Bool := return (← get).flowDepth != 0

def fail (p : Problem) (task : Task) (start : Mark) : SourceM α := do
  throw (.found p (← mark) (some (task, start)))

def skip : SourceM Unit := modify fun s =>
  match s.rest with
  | [] => s
  | _ :: cs =>
    { s with rest := cs, mark := ⟨s.mark.line, s.mark.column + 1, s.mark.index + 1⟩ }

def skipMany : Nat → SourceM Unit
  | 0 => pure ()
  | n + 1 => do skip; skipMany n

/-- Takes a line break and gives what it stands for: all but the two Unicode ones stand for
`\n`. -/
def lineBreak : SourceM (List Char) := do
  let s ← get
  let next (n : Nat) (rest : List Char) : SourceM Unit :=
    set { s with rest := rest, mark := ⟨s.mark.line + 1, 0, s.mark.index + n⟩ }
  match s.rest with
  | '\r' :: '\n' :: cs => next 2 cs; return ['\n']
  | c :: cs =>
    if !isBreak c then return []
    next 1 cs
    return [if c.toNat == 0x2028 || c.toNat == 0x2029 then c else '\n']
  | [] => return []

def run (p : Char → Bool) : SourceM (List Char) := do
  let s ← get
  let taken := s.rest.takeWhile p
  let n := taken.length
  set { s with
    rest := s.rest.dropWhile p
    mark := ⟨s.mark.line, s.mark.column + n, s.mark.index + n⟩ }
  return taken

def skipBlanks : SourceM Unit := do
  let _ ← run isSpaceOrTab

def skipComment : SourceM Unit := do
  if ← sees '#' then
    let _ ← run fun c => !isBreak c

def loop (init : σ) (step : σ → SourceM (σ ⊕ α)) : SourceM α := do
  iterate step (← limit) init

/-- `---` or `...` alone at the start of a line. -/
def atDocumentSign : SourceM Bool := do
  let s ← get
  if s.mark.column != 0 then return false
  match s.rest with
  | '-' :: '-' :: '-' :: rest => return endsWord rest.head?
  | '.' :: '.' :: '.' :: rest => return endsWord rest.head?
  | _ => return false

end SourceM

end PluginAudit.Yaml
