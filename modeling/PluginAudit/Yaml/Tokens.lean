import PluginAudit.Yaml.Scalar
import PluginAudit.Yaml.Tag

/-!
# Reading tokens

`peekToken` and `takeToken` give the tokens of a text one by one. A `:` makes a key of the token
before it, so tokens wait in a queue as long as one may still turn out to be a key.
-/

namespace PluginAudit.Yaml

open SourceM

def enqueue (t : Token) : SourceM Unit := modify fun s => { s with queue := s.queue ++ [t] }

/-- A token put before the token with a given number. -/
def enqueueAt (number : Nat) (t : Token) : SourceM Unit :=
  modify fun s => { s with queue := s.queue.insertIdx (number - s.taken) t }

def signToken (kind : TokenKind) (n : Nat) : SourceM Unit := do
  let start ← mark
  skipMany n
  enqueue ⟨kind, start, ← mark⟩

/-! ## Keys -/

def setKey (key : Option KeyCandidate) : SourceM Unit :=
  modify fun s => { s with keys := key :: s.keys.drop 1 }

def currentKey : SourceM (Option KeyCandidate) := return (← get).keys.head?.join

def dropKey : SourceM Unit := do
  if let some k ← currentKey then
    if k.required then fail .badKey .simpleKey k.mark
  setKey none

def noteKey : SourceM Unit := do
  let s ← get
  if s.keyAllowed then
    let required := s.flowDepth == 0 && s.indent == s.mark.column
    dropKey
    setKey (some ⟨required, s.taken + s.queue.length, s.mark⟩)

/-- A key stands on one line and has at most 1024 characters. -/
def isStale (m : Mark) (k : KeyCandidate) : Bool :=
  k.mark.line < m.line || k.mark.index + 1024 < m.index

/-- Gives up the candidates that cannot be keys any more; the outermost comes first. -/
def dropStaleKeys : SourceM Unit := do
  let s ← get
  let stale (key : Option KeyCandidate) : Bool := (key.map (isStale s.mark)).getD false
  for key in s.keys.reverse do
    for k in key do
      if isStale s.mark k && k.required then fail .badKey .simpleKey k.mark
  set { s with keys := s.keys.map fun key => if stale key then none else key }

def allowKey (b : Bool) : SourceM Unit := modify fun s => { s with keyAllowed := b }

/-! ## Indentation -/

def openBlock (column : Nat) (number : Option Nat) (kind : TokenKind) (m : Mark) :
    SourceM Unit := do
  let s ← get
  if s.flowDepth == 0 && s.indent < column then
    set { s with indent := (column : Int), outer := s.indent :: s.outer }
    match number with
    | none => enqueue ⟨kind, m, m⟩
    | some n => enqueueAt n ⟨kind, m, m⟩

def closeBlocks (column : Int) : SourceM Unit := do
  if ← inFlow then return
  loop () fun () => do
    let s ← get
    if s.indent ≤ column then return .inr ()
    enqueue ⟨.blockEnd, s.mark, s.mark⟩
    modify fun s => { s with indent := s.outer.head?.getD (-1), outer := s.outer.drop 1 }
    return .inl ()

/-! ## The kinds of tokens -/

/-- Skips blanks, comments and line breaks. A tab may not indent a block. -/
def skipToToken : SourceM Unit := do
  loop () fun () => do
    if (← mark).column == 0 && (← peek) == some '\ufeff' then skip
    let tabs := (← inFlow) || !(← get).keyAllowed
    let _ ← run fun c => c == ' ' || (tabs && c == '\t')
    skipComment
    match ← peek with
    | none => return .inr ()
    | some c =>
      if !isBreak c then return .inr ()
      let _ ← lineBreak
      if !(← inFlow) then allowKey true
      return .inl ()

def streamStart : SourceM Unit := do
  let m ← mark
  modify fun s => { s with started := true, keyAllowed := true, keys := [none], indent := -1 }
  enqueue ⟨.streamStart, m, m⟩

def streamEnd : SourceM Unit := do
  modify fun s =>
    if s.mark.column == 0 then s
    else { s with mark := ⟨s.mark.line + 1, 0, s.mark.index⟩ }
  closeBlocks (-1)
  dropKey
  allowKey false
  signToken .streamEnd 0

def directive : SourceM Unit := do
  closeBlocks (-1)
  dropKey
  allowKey false
  enqueue (← directiveToken)

def documentSign (kind : TokenKind) : SourceM Unit := do
  closeBlocks (-1)
  dropKey
  allowKey false
  signToken kind 3

def flowStart (kind : TokenKind) : SourceM Unit := do
  noteKey
  modify fun s => { s with keys := none :: s.keys, flowDepth := s.flowDepth + 1 }
  allowKey true
  signToken kind 1

def flowEnd (kind : TokenKind) : SourceM Unit := do
  dropKey
  if ← inFlow then
    modify fun s => { s with keys := s.keys.drop 1, flowDepth := s.flowDepth - 1 }
  allowKey false
  signToken kind 1

def flowEntry : SourceM Unit := do
  dropKey
  allowKey true
  signToken .flowEntry 1

/-- A problem that is told without what was being read. -/
def failPlainly (p : Problem) : SourceM α := do throw (.found p (← mark) none)

def blockHere (kind : TokenKind) (p : Problem) : SourceM Unit := do
  if !(← inFlow) then
    if !(← get).keyAllowed then failPlainly p
    let m ← mark
    openBlock m.column none kind m

def blockEntry : SourceM Unit := do
  blockHere .blockSequenceStart .sequenceHere
  dropKey
  allowKey true
  signToken .blockEntry 1

def keySign : SourceM Unit := do
  blockHere .blockMappingStart .keyHere
  dropKey
  allowKey (!(← inFlow))
  signToken .key 1

def valueSign : SourceM Unit := do
  match ← currentKey with
  | some k =>
    enqueueAt k.number ⟨.key, k.mark, k.mark⟩
    openBlock k.mark.column (some k.number) .blockMappingStart k.mark
    setKey none
    allowKey false
  | none =>
    blockHere .blockMappingStart .valueHere
    allowKey (!(← inFlow))
  signToken .value 1

/-- A token that may be a key. -/
def keyable (read : SourceM Token) : SourceM Unit := do
  noteKey
  allowKey false
  enqueue (← read)

def blockText (literal : Bool) : SourceM Unit := do
  dropKey
  allowKey true
  enqueue (← blockScalar literal)

def indicators : List Char :=
  ['-', '?', ':', ',', '[', ']', '\x7b', '\x7d', '#', '&', '*', '!', '|', '>', '\'', '"', '%', '@',
   '`']

def startsPlain (inFlow : Bool) (c : Char) (next : Option Char) : Bool :=
  !(isSpaceOrTab c || isBreak c || indicators.contains c) ||
    (c == '-' && !(next.map isSpaceOrTab).getD false) ||
    (!inFlow && (c == '?' || c == ':') && !endsWord next)

def fetch : SourceM Unit := do
  if !(← get).started then return ← streamStart
  skipToToken
  dropStaleKeys
  closeBlocks (← mark).column
  let some c ← peek | streamEnd
  let next ← peekAt 1
  let flow ← inFlow
  let column := (← mark).column
  if column == 0 && c == '%' then return ← directive
  if ← atDocumentSign then
    return ← documentSign (if c == '-' then .documentStart else .documentEnd)
  match c with
  | '[' => flowStart .flowSequenceStart
  | '\x7b' => flowStart .flowMappingStart
  | ']' => flowEnd .flowSequenceEnd
  | '\x7d' => flowEnd .flowMappingEnd
  | ',' => flowEntry
  | '*' => keyable (anchorToken true)
  | '&' => keyable (anchorToken false)
  | '!' => keyable tagToken
  | '\'' => keyable (quotedScalar '\'')
  | '"' => keyable (quotedScalar '"')
  | c =>
    if c == '-' && endsWord next then blockEntry
    else if c == '?' && (flow || endsWord next) then keySign
    else if c == ':' && (flow || endsWord next) then valueSign
    else if c == '|' && !flow then blockText true
    else if c == '>' && !flow then blockText false
    else if startsPlain flow c next then keyable plainScalar
    else fail .badToken .token (← mark)

/-! ## Taking tokens -/

/-- Whether the first token in the queue may still turn out to be a key. -/
def headMayBeKey : SourceM Bool := do
  let s ← get
  return s.keys.any fun key => (key.map (·.number == s.taken)).getD false

def settle : SourceM Unit := do
  loop () fun () => do
    if (← get).queue.isEmpty then
      fetch
      return .inl ()
    dropStaleKeys
    if !(← headMayBeKey) then return .inr ()
    fetch
    return .inl ()

def peekToken : SourceM Token := do
  settle
  match (← get).queue with
  | t :: _ => return t
  | [] => throw .exhausted

def takeToken : SourceM Unit :=
  modify fun s => { s with queue := s.queue.drop 1, taken := s.taken + 1 }

end PluginAudit.Yaml
