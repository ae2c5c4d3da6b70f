import PluginAudit.Yaml.Tokens

/-!
# Events of YAML documents

`readDocument` lists the nodes of the first document of a text in the order of the text, a
collection as its beginning and its end. The events before a fault are kept.
-/

namespace PluginAudit.Yaml

inductive EventKind where
  /-- The node of an anchor, by the number of the anchor. -/
  | aliasName (anchor : Nat)
  | scalar (text : List Char) (tag : Option (List Char)) (style : ScalarStyle)
  | sequenceStart (tag : Option (List Char))
  | sequenceEnd
  | mappingStart (tag : Option (List Char))
  | mappingEnd
  | nothing
  deriving DecidableEq, Repr

structure Event where
  kind : EventKind
  mark : Mark
  deriving Repr

/-- The events read so far, and where reading goes on. -/
structure Reading where
  source : Source
  /-- Newest first. -/
  events : List Event
  /-- What each tag handle stands for. -/
  handles : List (List Char × List Char)
  /-- The number of the last anchor of each name; names are distinct. -/
  anchors : List (List Char × Nat)
  /-- The places of anchored events, by the number of the anchor; the first found counts. -/
  places : List (Nat × Nat)

abbrev EventM := EStateM Fault Reading

namespace EventM

def lift (m : SourceM α) : EventM α := fun r =>
  match m r.source with
  | .ok a s => .ok a { r with source := s }
  | .error e s => .error e { r with source := s }

def peek : EventM Token := lift peekToken

def skip : EventM Unit := lift takeToken

def loop (init : σ) (step : σ → EventM (σ ⊕ α)) : EventM α := do
  iterate step (← get).source.limit init

def emit (kind : EventKind) (mark : Mark) : EventM Unit :=
  modify fun r => { r with events := ⟨kind, mark⟩ :: r.events }

/-- Notes that the next event has an anchor. The number of the anchor is that of the names known
before. -/
def noteAnchor (anchor : Option (List Char)) : EventM Unit :=
  match anchor with
  | none => pure ()
  | some name => modify fun r =>
    let number := r.anchors.length
    { r with
      anchors := (name, number) :: r.anchors.filter (·.1 != name)
      places := (number, r.events.length) :: r.places }

def emitEmpty (mark : Mark) : EventM Unit := emit (.scalar [] none .plain) mark

def failAt (t : Token) (p : Problem) (task : Task) (start : Mark) : EventM α :=
  throw (.found p t.start (some (task, start)))

end EventM

open EventM

/-! ## Nodes -/

/-- What may stand before a node. -/
structure Properties where
  anchor : Option (List Char) := none
  tag : Option (List Char × List Char × Mark) := none

def readProperties : EventM Properties := do
  let t ← peek
  match t.kind with
  | .anchor name =>
    skip
    let u ← peek
    match u.kind with
    | .tag handle suffix =>
      skip
      return { anchor := name, tag := (handle, suffix, u.start) }
    | _ => return { anchor := name }
  | .tag handle suffix =>
    skip
    let u ← peek
    match u.kind with
    | .anchor name =>
      skip
      return { anchor := name, tag := (handle, suffix, t.start) }
    | _ => return { tag := (handle, suffix, t.start) }
  | _ => return {}

def resolveTag (p : Properties) (start : Mark) : EventM (Option (List Char)) := do
  match p.tag with
  | none => return none
  | some ([], suffix, _) => return some suffix
  | some (handle, suffix, place) =>
    match (← get).handles.lookup handle with
    | some text => return some (text ++ suffix)
    | none => throw (.found .undefinedHandle place (some (.node, start)))

/-- Reads a node in a block or not, where a sequence may stand at the column of its mapping or
not. -/
abbrev NodeReader := Bool → Bool → EventM Unit

/-- A node, or a missing one at a mark if a token of some kinds stands here. -/
def nodeUnless (node : EventM Unit) (missing : TokenKind → Bool) (mark : Token → Mark) :
    EventM Unit := do
  let t ← peek
  if missing t.kind then emitEmpty (mark t) else node

def blockSequence (node : NodeReader) : EventM Unit := do
  let start := (← peek).start
  skip
  loop () fun () => do
    let t ← peek
    match t.kind with
    | .blockEntry =>
      skip
      nodeUnless (node true false) (fun k => k == .blockEntry || k == .blockEnd) fun _ => t.stop
      return .inl ()
    | .blockEnd =>
      emit .sequenceEnd t.start
      skip
      return .inr ()
    | _ => failAt t .noDash .blockCollection start

/-- The entries of a sequence at the column of its mapping. -/
def openSequence (node : NodeReader) : EventM Unit := do
  loop () fun () => do
    let t ← peek
    match t.kind with
    | .blockEntry =>
      skip
      nodeUnless (node true false)
        (fun k => k == .blockEntry || k == .key || k == .value || k == .blockEnd) fun _ => t.stop
      return .inl ()
    | _ =>
      emit .sequenceEnd t.start
      return .inr ()

def endsBlockPart (k : TokenKind) : Bool := k == .key || k == .value || k == .blockEnd

def blockMapping (node : NodeReader) : EventM Unit := do
  let start := (← peek).start
  skip
  loop () fun () => do
    let t ← peek
    match t.kind with
    | .key =>
      skip
      nodeUnless (node true true) endsBlockPart fun _ => t.stop
    | .blockEnd =>
      emit .mappingEnd t.start
      skip
      return .inr ()
    | _ => failAt t .noKey .blockMapping start
    let u ← peek
    match u.kind with
    | .value =>
      skip
      nodeUnless (node true true) endsBlockPart fun _ => u.stop
    | _ => emitEmpty u.start
    return .inl ()

/-- A value after its `:`, if there is one, in a flow collection. -/
def flowValue (node : NodeReader) (closing : TokenKind) : EventM Unit := do
  let t ← peek
  match t.kind with
  | .value =>
    skip
    nodeUnless (node false false) (fun k => k == .flowEntry || k == closing) (·.start)
  | _ => emitEmpty t.start

/-- A mapping of one member in a flow sequence, from its key on. A key that is missing takes the
token that stands in its place. -/
def flowPair (node : NodeReader) : EventM Unit := do
  let t ← peek
  emit (.mappingStart none) t.start
  skip
  let u ← peek
  if u.kind == .value || u.kind == .flowEntry || u.kind == .flowSequenceEnd then
    skip
    emitEmpty u.stop
  else node false false
  flowValue node .flowSequenceEnd
  emit .mappingEnd (← peek).start

def separator (first : Bool) (p : Problem) (task : Task) (start : Mark) : EventM Unit := do
  if !first then
    let t ← peek
    if t.kind == .flowEntry then skip else failAt t p task start

def flowSequence (node : NodeReader) : EventM Unit := do
  let start := (← peek).start
  skip
  loop true fun (first : Bool) => do
    if (← peek).kind != .flowSequenceEnd then
      separator first .noCommaOrBracket .flowSequence start
    let t ← peek
    match t.kind with
    | .flowSequenceEnd =>
      emit .sequenceEnd t.start
      skip
      return .inr ()
    | .key => flowPair node
    | _ => node false false
    return .inl false

def flowMapping (node : NodeReader) : EventM Unit := do
  let start := (← peek).start
  skip
  loop true fun (first : Bool) => do
    if (← peek).kind != .flowMappingEnd then
      separator first .noCommaOrBrace .flowMapping start
    let t ← peek
    match t.kind with
    | .flowMappingEnd =>
      emit .mappingEnd t.start
      skip
      return .inr ()
    | .key =>
      skip
      nodeUnless (node false false)
        (fun k => k == .value || k == .flowEntry || k == .flowMappingEnd) (·.start)
      flowValue node .flowMappingEnd
    | _ =>
      node false false
      emitEmpty (← peek).start
    return .inl false

/-- An alias stands for the last node before it that has its anchor. -/
def readAlias (name : List Char) (t : Token) : EventM Unit := do
  match (← get).anchors.lookup name with
  | some number =>
    emit (.aliasName number) t.start
    skip
  | none => throw (.unknownAnchor t.start)

/-- The tag `!` says only that the scalar is a string if it is quoted, and so nothing. -/
def scalarTag (tag : Option (List Char)) : Option (List Char) :=
  if tag == some ['!'] then none else tag

def content (node : NodeReader) (block indentless : Bool) : EventM Unit := do
  let start := (← peek).start
  let p ← readProperties
  let tag ← resolveTag p start
  let t ← peek
  match t.kind, block with
  | .scalar text style, _ =>
    noteAnchor p.anchor
    emit (.scalar text (scalarTag tag) style) start
    skip
  | .flowSequenceStart, _ =>
    noteAnchor p.anchor
    emit (.sequenceStart tag) start
    flowSequence node
  | .flowMappingStart, _ =>
    noteAnchor p.anchor
    emit (.mappingStart tag) start
    flowMapping node
  | .blockSequenceStart, true =>
    noteAnchor p.anchor
    emit (.sequenceStart tag) start
    blockSequence node
  | .blockMappingStart, true =>
    noteAnchor p.anchor
    emit (.mappingStart tag) start
    blockMapping node
  | kind, _ =>
    if indentless && kind == .blockEntry then
      noteAnchor p.anchor
      emit (.sequenceStart tag) start
      openSequence node
    else if p.anchor.isSome || tag.isSome then
      noteAnchor p.anchor
      emit (.scalar [] tag .plain) start
    else failAt t .noContent (if block then .blockNode else .flowNode) start

/-- A node inside fewer than `n` others. -/
def node : Nat → NodeReader
  | 0, _, _ => throw .exhausted
  | n + 1, block, indentless => do
    let t ← peek
    match t.kind with
    | .aliasName name => readAlias name t
    | _ => content (node n) block indentless

/-! ## Documents -/

def standardHandles : List (List Char × List Char) :=
  [(['!'], ['!']), (['!', '!'], "tag:yaml.org,2002:".toList)]

def failPlainlyAt (t : Token) (p : Problem) : EventM α := throw (.found p t.start none)

def versionFits (major minor : Nat) : Bool := major == 1 && (minor == 1 || minor == 2)

def readDirectives : EventM Unit := do
  loop false fun (versionKnown : Bool) => do
    let t ← peek
    match t.kind with
    | .versionDirective major minor =>
      if versionKnown then failPlainlyAt t .repeatedVersion
      if !versionFits major minor then failPlainlyAt t .wrongVersion
      skip
      return .inl true
    | .tagDirective handle text =>
      if ((← get).handles.lookup handle).isSome then failPlainlyAt t .repeatedTag
      modify fun r => { r with handles := (handle, text) :: r.handles }
      skip
      return .inl versionKnown
    | _ =>
      modify fun r => { r with handles := r.handles ++ standardHandles }
      return .inr ()

def beginsDocument (k : TokenKind) : Bool :=
  match k with
  | .versionDirective .. => true
  | .tagDirective .. => true
  | .documentStart => true
  | _ => false

/-- Kinds of tokens that leave a document empty after its `---`. -/
def leavesEmpty (k : TokenKind) : Bool :=
  beginsDocument k || k == .documentEnd || k == .streamEnd

/-- The first document of a text, and the token after it. -/
def readDocument : EventM Unit := do
  let n := 2 * (← get).source.limit
  let _ ← peek
  skip
  let t ← peek
  if t.kind == .streamEnd then emit .nothing t.start
  else if !beginsDocument t.kind then
    readDirectives
    node n true false
    let _ ← peek
  else
    readDirectives
    let u ← peek
    if u.kind != .documentStart then failPlainlyAt u .noDocumentStart
    skip
    nodeUnless (node n true false) leavesEmpty (·.start)
    let _ ← peek

/-- Whether nothing follows a document; a fault counts as something. -/
def atEnd : EventM Bool := do
  loop () fun () => do
    let t ← peek
    match t.kind with
    | .documentEnd =>
      skip
      return .inl ()
    | kind => return .inr (kind == .streamEnd)

/-! ## Characters -/

def isAllowed (c : Char) : Bool :=
  let n := c.toNat
  n == 9 || n == 10 || n == 13 || (0x20 ≤ n && n ≤ 0x7E) || n == 0x85 ||
    (0xA0 ≤ n && n ≤ 0xD7FF) || (0xE000 ≤ n && n ≤ 0xFFFD) || 0x10000 ≤ n

/-- The offset in bytes of the first character that may not stand in a text. -/
def controlOffset? : Nat → List Char → Option Nat
  | _, [] => none
  | n, c :: cs => if isAllowed c then controlOffset? (n + c.utf8Size) cs else some n

def Reading.ofText (text : List Char) : Reading where
  source := Source.ofText (if text.head? == some '\ufeff' then text.drop 1 else text)
  events := []
  handles := []
  anchors := []
  places := []

end PluginAudit.Yaml
