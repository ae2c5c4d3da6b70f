import PluginAudit.Schema.Basic

/-!
# References

A reference names a resource and a place in it, by steps from its root or by an anchor. The places
of all resources and anchors of some documents are kept in a list of entries.
-/

namespace PluginAudit.Schema

open Text

structure Source where
  uri : String
  draft : Draft
  root : Value

inductive Fault where
  | unknownDraft (uri : String)
  | violation (v : Violation)
  | noPlace (pointer : String)
  | badIndex (pointer index : String)
  | badBytes (pointer : String)
  | noAnchor (name : String)
  | badAnchor (name : String)
  | unknownResource (uri : String)
  deriving Repr

def Fault.message : Fault → String
  | unknownDraft uri => "Unknown specification: " ++ uri
  | violation v => v.message
  | noPlace pointer => "Pointer '" ++ pointer ++ "' does not exist"
  | badIndex pointer index =>
    "Failed to parse array index '" ++ index ++ "' in pointer '" ++ pointer ++ "'"
  | badBytes pointer =>
    "Invalid percent encoding in pointer '" ++ pointer ++
      "': the decoded bytes do not represent valid UTF-8"
  | noAnchor name => "Anchor '" ++ name ++ "' does not exist"
  | badAnchor name => "Anchor '" ++ name ++ "' is invalid"
  | unknownResource uri =>
    "Resource '" ++ uri ++ "' is not present in a registry and retrieving it failed"

/-! ## Resources and anchors -/

structure Entry where
  uri : String
  anchor : Option String
  place : Place
  deriving Repr

def text? (v : Value) (key : String) : Option String :=
  match v.get? key with
  | some (.string s) => some s
  | _ => none

def ownId? (d : Draft) (v : Value) : Option String :=
  text? v (if d == .four then "id" else "$id")

def withoutHash (uri : String) : String :=
  String.ofList (uri.toList.reverse.dropWhile (· == '#')).reverse

/-- A reference joined to a base, without its fragment. -/
def joinUri (base reference : String) : String :=
  let u := (Uri.ofText base.toList).resolve (Uri.ofText reference.toList)
  String.ofList { u with fragment := none }.text

def isFragment (reference : String) : Bool := reference.toList.head? == some '#'

def baseWithin (d : Draft) (base : String) (v : Value) : String :=
  match ownId? d v with
  | some id => if isFragment id then base else joinUri base id
  | none => base

/-- Keys under which no schemas stand. -/
def dataKeys : List String := ["const", "default", "enum", "examples"]

def ownEntries (d : Draft) (base : String) (place : Place) (v : Value) : List Entry :=
  let here := baseWithin d base v
  let resource : List Entry := if here != base then [⟨here, none, place⟩] else []
  let named := ["$anchor", "$dynamicAnchor"].filterMap (text? v)
  let fragment := ((ownId? d v).filter isFragment).map fun id => String.ofList (id.toList.drop 1)
  resource ++ (named ++ fragment.toList).map fun name => ⟨here, some name, place⟩

mutual

def entriesIn (d : Draft) (base : String) (place : Place) : Value → List Entry
  | .object ms =>
    ownEntries d base place (.object ms) ++
      memberEntries d (baseWithin d base (.object ms)) place ms
  | .array vs => itemEntries d base place 0 vs
  | _ => []

def memberEntries (d : Draft) (base : String) (place : Place) :
    List (String × Value) → List Entry
  | [] => []
  | (k, v) :: ms =>
    (if dataKeys.contains k then []
      else entriesIn d base { place with steps := place.steps ++ [k] } v) ++
      memberEntries d base place ms

def itemEntries (d : Draft) (base : String) (place : Place) (i : Nat) : List Value → List Entry
  | [] => []
  | v :: vs =>
    entriesIn d base { place with steps := place.steps ++ [toString i] } v ++
      itemEntries d base place (i + 1) vs

end

def Source.entries (s : Source) : List Entry :=
  ⟨s.uri, none, ⟨s.uri, []⟩⟩ :: entriesIn s.draft s.uri ⟨s.uri, []⟩ s.root

/-! ## Following references -/

structure Target where
  place : Place
  value : Value
  base : String
  draft : Draft

/-- The bytes of a text in which `%XX` stands for a byte. -/
def unescapedBytes : List Char → List UInt8
  | '%' :: a :: b :: rest =>
    match hexValue? a, hexValue? b with
    | some i, some j => (i * 16 + j).toUInt8 :: unescapedBytes rest
    | _, _ => (String.singleton '%').toUTF8.toList ++ unescapedBytes (a :: b :: rest)
  | c :: rest => (String.singleton c).toUTF8.toList ++ unescapedBytes rest
  | [] => []

def unescapedKey : List Char → List Char
  | '~' :: '1' :: rest => '/' :: unescapedKey rest
  | '~' :: '0' :: rest => '~' :: unescapedKey rest
  | c :: rest => c :: unescapedKey rest
  | [] => []

def step (pointer : String) (v : Value) (segment : List Char) :
    Except Fault (String × Value) :=
  let key := String.ofList (unescapedKey segment)
  match v with
  | .array vs =>
    if segment.isEmpty || !segment.all Char.isDigit then
      .error (.badIndex pointer (String.ofList segment))
    else
      let i := segment.foldl (fun n d => n * 10 + (d.toNat - 48)) 0
      match vs[i]? with
      | some w => .ok (toString i, w)
      | none => .error (.noPlace pointer)
  | v =>
    match v.get? key with
    | some w => .ok (key, w)
    | none => .error (.noPlace pointer)

def walk (pointer : String) (t : Target) : List (List Char) → Except Fault Target
  | [] => .ok t
  | segment :: rest => do
    let (key, w) ← step pointer t.value segment
    let place := { t.place with steps := t.place.steps ++ [key] }
    walk pointer ⟨place, w, baseWithin t.draft t.base w, t.draft⟩ rest

def targetAt? (sources : List Source) (base : String) (p : Place) : Option Target := do
  let s ← sources.find? (·.uri == p.document)
  let v ← p.steps.foldlM (fun v key => ((step "" v key.toList).toOption).map (·.2)) s.root
  return ⟨p, v, base, s.draft⟩

structure Library where
  sources : List Source
  entries : List Entry

def Library.ofSources (ss : List Source) : Library := ⟨ss, ss.flatMap Source.entries⟩

namespace Library

def find (l : Library) (uri : String) (anchor : Option String) (missing : Fault) :
    Except Fault Target :=
  match (l.entries.find? fun e => e.uri == uri && e.anchor == anchor).bind fun e =>
      targetAt? l.sources uri e.place with
  | some t => .ok t
  | none => .error missing

def pointed (t : Target) (pointer : String) : Except Fault Target :=
  match String.fromUTF8? (ByteArray.mk (unescapedBytes (pointer.toList.drop 1)).toArray) with
  | none => .error (.badBytes pointer)
  | some text => walk pointer t (Uri.segments text.toList)

def parts (base reference : String) : String × String :=
  let (uri, fragment) := Uri.cut '#' reference.toList
  (if isFragment reference then base else joinUri base (String.ofList uri),
    String.ofList (fragment.getD []))

def follow (l : Library) (base reference : String) : Except Fault Target := do
  let (uri, fragment) := parts base reference
  let resource ← l.find uri none (.unknownResource uri)
  if fragment.isEmpty then return resource
  if fragment.toList.head? == some '/' then pointed resource fragment
  else
    l.find uri (some fragment)
      (if fragment.toList.contains '/' then .badAnchor fragment else .noAnchor fragment)

end Library

end PluginAudit.Schema
