import PluginAudit.Text.Quoted
import PluginAudit.Yaml.Event
import PluginAudit.Yaml.Plain

/-!
# Documents written in YAML

`Yaml.read` gives the value of a text that holds one document. Aliases are replaced by what they
stand for, and what comes before a fault is looked at before the fault is reported.
-/

namespace PluginAudit.Yaml

open Text

inductive Step where
  | item (index : Nat)
  | member (key : List Char)
  /-- A member whose key is an alias. -/
  | unknown
  deriving DecidableEq, Repr

def pathText : List Step → String
  | [] => "."
  | .item i :: ps => pathText ps ++ "[" ++ toString i ++ "]"
  | .member key :: ps => parentText ps ++ String.ofList key
  | .unknown :: ps => parentText ps ++ "?"
where
  parentText : List Step → String
    | [] => ""
    | ps => pathText ps ++ "."

inductive Wanted where
  | boolean | integer | float | null
  deriving DecidableEq, Repr

def Wanted.message : Wanted → String
  | boolean => "a boolean"
  | integer => "an integer"
  | float => "a float"
  | null => "null"

inductive Complaint where
  | unknownTag
  | wrongText (text : List Char) (wanted : Wanted)
  | integerTooLarge
  /-- A collection stands where the first key or a later one should. -/
  | keyIsCollection (sequence first : Bool)
  deriving DecidableEq, Repr

def Complaint.message : Complaint → String
  | unknownTag => "invalid type: enum, expected any valid JSON value"
  | wrongText text wanted =>
    "invalid value: string " ++ quote text ++ ", expected " ++ wanted.message
  | integerTooLarge => "JSON number out of range"
  | keyIsCollection sequence first =>
    "invalid type: " ++ (if sequence then "sequence" else "map") ++
      (if first then ", expected a string key" else ", expected a string")

inductive ReadError where
  | fault (f : Fault)
  | complaint (c : Complaint) (path : List Step) (mark : Mark)
  | tooDeep (mark : Mark)
  | tooManyAliases
  | severalDocuments
  | endOfText
  deriving DecidableEq, Repr

def ReadError.message : ReadError → String
  | fault f => f.message
  | complaint c [] mark => c.message ++ mark.shown
  | complaint c path mark => pathText path ++ ": " ++ c.message ++ mark.shown
  | tooDeep mark => "recursion limit exceeded" ++ mark.shown
  | tooManyAliases => "repetition limit exceeded"
  | severalDocuments =>
    "deserializing from YAML containing more than one document is not supported"
  | endOfText => "EOF while parsing a value"

/-! ## Scalars -/

/-- Whether a tag is no tag of the standard: it begins with `!` and is readable. -/
def isForeign (tag : Option (List Char)) : Bool :=
  match tag with
  | some ('!' :: name) => (ByteArray.mk (name.map (·.toNat.toUInt8)).toArray).validateUTF8
  | _ => false

def wanted? (tag : List Char) : Option Wanted :=
  (after "tag:yaml.org,2002:".toList).bind fun name =>
    if name == "bool".toList then some .boolean
    else if name == "int".toList then some .integer
    else if name == "float".toList then some .float
    else if name == "null".toList then some .null
    else none
where
  after (start : List Char) : Option (List Char) :=
    if start.isPrefixOf tag then some (tag.drop start.length) else none

def wantedValue (text : List Char) (w : Wanted) : Except Complaint Value :=
  let orWrong (v : Option Value) : Except Complaint Value :=
    match v with
    | some v => .ok v
    | none => .error (.wrongText text w)
  match w with
  | .boolean => orWrong ((boolean? text).map .bool)
  | .null => orWrong (if isNull text then some .null else none)
  | .float => orWrong (float? text)
  | .integer =>
    match integer? text with
    | none => orWrong none
    | some i => match integerValue? i with
      | some v => .ok v
      | none => .error .integerTooLarge

def plainValue (text : List Char) : Except Complaint Value :=
  match plainValue? text with
  | some v => .ok v
  | none => .error .integerTooLarge

def scalarValue (text : List Char) (tag : Option (List Char)) (style : ScalarStyle) :
    Except Complaint Value :=
  if isForeign tag then .error .unknownTag
  else
    match tag.bind wanted? with
    | some w => wantedValue text w
    | none =>
      let bare := match tag with
        | none => true
        | some tag => tag.head? == some '!'
      if bare && style == .plain then plainValue text else .ok (string text)

/-! ## Nodes -/

structure Events where
  all : Array Event
  places : List (Nat × Nat)
  fault : Option Fault

/-- Counts the aliases that are replaced. -/
abbrev ExpandM := EStateM ReadError Nat

namespace Events

def at_ (d : Events) (i : Nat) : ExpandM Event :=
  match d.all[i]? with
  | some e => pure e
  | none => throw (match d.fault with
    | some f => .fault f
    | none => .endOfText)

def follow (d : Events) (anchor : Nat) : ExpandM Nat := do
  modify (· + 1)
  if d.all.size * 100 < (← get) then throw .tooManyAliases
  match d.places.lookup anchor with
  | some i => return i
  | none => throw .endOfText

def orComplain (v : Except Complaint α) (path : List Step) (mark : Mark) : ExpandM α :=
  match v with
  | .ok a => pure a
  | .error c => throw (.complaint c path mark)

/-- Gives the value of the node at a place, reached by some steps, and the place after it. -/
abbrev NodeValue := List Step → Nat → ExpandM (Value × Nat)

def items (d : Events) (node : NodeValue) (path : List Step) :
    Nat → Nat → Nat → List Value → ExpandM (Value × Nat)
  | 0, _, _, _ => throw .endOfText
  | n + 1, index, i, done => do
    let e ← d.at_ i
    if e.kind == .sequenceEnd then return (.array done.reverse, i + 1)
    let (v, j) ← node (.item index :: path) i
    items d node path n (index + 1) j (v :: done)

def keyText (e : Event) (first : Bool) (path : List Step) : ExpandM (List Char) :=
  match e.kind with
  | .scalar text _ _ => pure text
  | .sequenceStart _ => throw (.complaint (.keyIsCollection true first) path e.mark)
  | .mappingStart _ => throw (.complaint (.keyIsCollection false first) path e.mark)
  | _ => throw .endOfText

def key (d : Events) (e : Event) (first : Bool) (path : List Step) :
    ExpandM (List Char × Step) := do
  match e.kind with
  | .aliasName anchor =>
    let target ← d.at_ (← d.follow anchor)
    return (← keyText target first path, .unknown)
  | _ =>
    let text ← keyText e first path
    return (text, .member text)

def members (d : Events) (node : NodeValue) (path : List Step) :
    Nat → Bool → Nat → List (String × Value) → ExpandM (Value × Nat)
  | 0, _, _, _ => throw .endOfText
  | n + 1, first, i, done => do
    let e ← d.at_ i
    if e.kind == .mappingEnd then return (.object done, i + 1)
    let (text, step) ← d.key e first path
    let (v, j) ← node (step :: path) (i + 1)
    members d node path n false j (Value.insert (String.ofList text) v done)

/-- The value of an event that is no alias. Collections need a reader of what is in them. -/
def content (d : Events) (inner : Option NodeValue) (path : List Step) (i : Nat) (e : Event) :
    ExpandM (Value × Nat) := do
  let bound := d.all.size + 1
  match e.kind with
  | .scalar text tag style => return (← orComplain (scalarValue text tag style) path e.mark, i + 1)
  | .sequenceStart tag =>
    if isForeign tag then throw (.complaint .unknownTag path e.mark)
    let some node := inner | throw (.tooDeep e.mark)
    items d node path bound 0 (i + 1) []
  | .mappingStart tag =>
    if isForeign tag then throw (.complaint .unknownTag path e.mark)
    let some node := inner | throw (.tooDeep e.mark)
    members d node path bound true (i + 1) []
  | _ => return (.null, i + 1)

def nodeWith (d : Events) (inner : Option NodeValue) : NodeValue := fun path i => do
  let e ← d.at_ i
  match e.kind with
  | .aliasName anchor =>
    let j ← d.follow anchor
    let (v, _) ← content d inner path j (← d.at_ j)
    return (v, i + 1)
  | _ => content d inner path i e

/-- The value of a node in which collections nest at most `n` deep. -/
def node (d : Events) : Nat → NodeValue
  | 0 => d.nodeWith none
  | n + 1 => d.nodeWith (some (node d n))

/-- Collections may nest so deep. -/
def depthLimit : Nat := 128

def value (d : Events) : Except ReadError Value :=
  match d.node depthLimit [] 0 0 with
  | .ok (v, _) _ => .ok v
  | .error e _ => .error e

end Events

/-! ## Texts -/

def Reading.eventsUpTo (r : Reading) (fault : Option Fault) : Events :=
  ⟨r.events.reverse.toArray, r.places, fault⟩

/-- Whether a text goes on after its first document, if only by a fault. -/
def Reading.goesOn (r : Reading) : Bool :=
  match atEnd r with
  | .ok done _ => !done
  | .error _ _ => true

def read (text : List Char) : Except ReadError Value := do
  if let some offset := controlOffset? 0 text then throw (.fault (.control offset))
  match readDocument (Reading.ofText text) with
  | .ok _ r =>
    let v ← (r.eventsUpTo none).value
    if r.goesOn then throw .severalDocuments
    return v
  | .error f r =>
    let _ ← (r.eventsUpTo (some f)).value
    throw (.fault f)

end PluginAudit.Yaml
