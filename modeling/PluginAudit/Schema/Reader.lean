import PluginAudit.Schema.Checking
import PluginAudit.Schema.Reference

/-!
# Reading schemas

The members of an object each become at most one constraint, in the order of their keys. What a
reference leads to is read when the reference is met for the first time.
-/

namespace PluginAudit.Schema

structure Context where
  library : Library
  draft : Draft
  /-- The identifier that references are joined to. -/
  base : String

structure ReadState where
  /-- Places that are read or being read. -/
  seen : List Place
  table : Table

abbrev ReadM := EStateM Fault ReadState

abbrev SchemaReader := Context → Value → ReadM Schema

abbrev Members := List (String × Value)

namespace ReadM

def refuse (v : Value) (c : Cause) : ReadM α := throw (.violation ⟨[], v, c⟩)

def orFault (e : Except Fault α) : ReadM α :=
  match e with
  | .ok a => pure a
  | .error f => throw f

def members (v : Value) : ReadM Members :=
  match v with
  | .object ms => pure ms
  | v => refuse v (.wrongType [.object])

def items (v : Value) : ReadM (List Value) :=
  match v with
  | .array vs => pure vs
  | v => refuse v (.wrongType [.array])

def text (v : Value) : ReadM String :=
  match v with
  | .string s => pure s
  | v => refuse v (.wrongType [.string])

def numeral (v : Value) : ReadM Numeral :=
  match v with
  | .number n => pure n
  | v => refuse v (.wrongType [.number])

/-- The greatest count that is told apart. -/
def countLimit : Nat := Nat.pow 2 64 - 1

/-- A count; it may be written as a float. -/
def count (v : Value) : ReadM Nat :=
  match v with
  | .number (.int i) => if i < 0 then refuse v (.below (.int 0) false) else pure i.toNat
  | .number (.float x) =>
    match x.toInt? with
    | some i => pure (min i.toNat countLimit)
    | none => refuse v (.wrongType [.integer])
  | v => refuse v (.wrongType [.integer])

def regex (text : String) (shown : Value) : ReadM Regex.Expr :=
  match Regex.read? text.toList with
  | some e => pure e
  | none => refuse shown (.wrongFormat Format.regex.name)

end ReadM

open ReadM

def reference (read : SchemaReader) (ctx : Context) (v : Value) : ReadM Constraint := do
  let t ← orFault (ctx.library.follow ctx.base (← text v))
  if !(← get).seen.contains t.place then
    modify fun s => { s with seen := t.place :: s.seen }
    let schema ← read { ctx with draft := t.draft, base := t.base } t.value
    modify fun s => { s with table := (t.place, schema) :: s.table }
  return .reference t.place

def typeName (v : Value) : ReadM TypeName := do
  match TypeName.ofName? (← text v) with
  | some t => return t
  | none => refuse v (.notAnOption (TypeName.all.map fun t => .string t.name))

def typeNames (v : Value) : ReadM (List TypeName) :=
  match v with
  | .array vs => vs.mapM typeName
  | v => return [← typeName v]

def named (read : SchemaReader) (ctx : Context) (v : Value) :
    ReadM (List (String × Schema)) := do
  (← members v).mapM fun (k, w) => return (k, ← read ctx w)

def byPattern (read : SchemaReader) (ctx : Context) (v : Value) :
    ReadM (List (Regex.Expr × Schema)) := do
  (← members v).mapM fun (k, w) => do
    let e ← regex k w
    return (e, ← read ctx w)

def several (read : SchemaReader) (ctx : Context) (v : Value) : ReadM (List Schema) := do
  (← items v).mapM (read ctx)

def optional (read : ReadM α) (present : Bool) (absent : α) : ReadM α :=
  if present then read else pure absent

/-- Whether `additionalProperties` takes the properties of its schema along. -/
def takesProperties (ms : Members) : Bool :=
  match ms.lookup "additionalProperties" with
  | some (.bool b) => !b
  | some (.object _) => true
  | _ => false

def additionalProperties (read : SchemaReader) (ctx : Context) (ms : Members) (v : Value) :
    ReadM Constraint := do
  if !takesProperties ms then return .additional [] [] (← read ctx v)
  let patterns := ms.lookup "patternProperties"
  let properties := ms.lookup "properties"
  let ps ← match patterns with
    | some w => byPattern read ctx w
    | none => pure []
  let known ← match properties with
    | some w => named read ctx w
    | none => pure []
  match v with
  | .bool _ => return if patterns.isNone && properties.isNone then .noProperties else .closed known ps
  | v => return .additional known ps (← read ctx v)

def additionalItems (read : SchemaReader) (ctx : Context) (ms : Members) (v : Value) :
    ReadM (Option Constraint) := do
  match ms.lookup "items", v with
  | some (.array vs), .bool false => return some (.noMoreItems vs.length)
  | some (.array vs), .object _ => return some (.items vs.length (← read ctx v))
  | _, _ => return none

def itemsConstraint (read : SchemaReader) (ctx : Context) (ms : Members) (v : Value) :
    ReadM Constraint := do
  match ctx.draft, v with
  | .year2020, v =>
    let skipped := match ms.lookup "prefixItems" with
      | some (.array vs) => vs.length
      | _ => 0
    return .items skipped (← read ctx v)
  | _, .array vs => return .tuple (← vs.mapM (read ctx))
  | _, v => return .items 0 (← read ctx v)

def containsConstraint (read : SchemaReader) (ctx : Context) (ms : Members) (v : Value) :
    ReadM Constraint := do
  let bound (key : String) : ReadM (Option Nat) :=
    match ms.lookup key with
    | some w => if ctx.draft.atLeast .year2019 then some <$> count w else pure none
    | none => pure none
  let least ← bound "minContains"
  let most ← bound "maxContains"
  return .contains (← read ctx v) least most

def requiredKeys (v : Value) : ReadM (List String) := do (← items v).mapM text

/-- A dependency is a list of keys or a schema. -/
def dependency (read : SchemaReader) (ctx : Context) (v : Value) : ReadM Schema := do
  match v with
  | .array _ => return .all [.required (← requiredKeys v)]
  | v => read ctx v

def dependencies (read : Value → ReadM Schema) (v : Value) : ReadM Constraint := do
  return .dependent (← (← members v).mapM fun (k, w) => return (k, ← read w))

def conditional (read : SchemaReader) (ctx : Context) (ms : Members) (v : Value) :
    ReadM (Option Constraint) := do
  match ms.lookup "then", ms.lookup "else" with
  | none, none => return none
  | yes, no =>
    let test ← read ctx v
    return some (.conditional test (← yes.mapM (read ctx)) (← no.mapM (read ctx)))

/-- A bound, which the oldest draft makes exclusive by a member beside it. -/
def isExclusive (ctx : Context) (ms : Members) (key : String) : Bool :=
  ctx.draft == .four && match ms.lookup key with
    | some (.bool b) => b
    | _ => false

def formatConstraint (ctx : Context) (v : Value) : ReadM (Option Constraint) := do
  if !ctx.draft.assertsFormats then return none
  return (Format.find? ctx.draft (← text v)).map .format

/-- The first draft that knows a keyword; those not named are known to all. -/
def keywordSince (key : String) : Draft :=
  if ["const", "contains", "propertyNames", "exclusiveMinimum", "exclusiveMaximum"].contains key
  then .six
  else if key == "if" then .seven
  else if ["$recursiveRef", "dependentRequired", "dependentSchemas", "unevaluatedItems",
    "unevaluatedProperties"].contains key then .year2019
  else if ["$dynamicRef", "prefixItems"].contains key then .year2020
  else .four

def keyword (read : SchemaReader) (ctx : Context) (ms : Members) (key : String) (v : Value) :
    ReadM (Option Constraint) := do
  if !ctx.draft.atLeast (keywordSince key) then return none
  match key with
  | "$ref" => return some (← reference read ctx v)
  | "$dynamicRef" => return some (← reference read ctx v)
  | "$recursiveRef" =>
    if ctx.draft == .year2019 then return some (← reference read ctx v) else return none
  | "additionalItems" => additionalItems read ctx ms v
  | "additionalProperties" => return some (← additionalProperties read ctx ms v)
  | "allOf" => return some (.allOf (← several read ctx v))
  | "anyOf" => return some (.anyOf (← several read ctx v))
  | "const" => return some (.const v)
  | "contains" => return some (← containsConstraint read ctx ms v)
  | "dependencies" => return some (← dependencies (dependency read ctx) v)
  | "dependentRequired" =>
    return some (← dependencies (fun w => return .all [.required (← requiredKeys w)]) v)
  | "dependentSchemas" => return some (← dependencies (read ctx) v)
  | "enum" => return some (.enum (← items v))
  | "exclusiveMaximum" => return some (.maximum (← numeral v) true)
  | "exclusiveMinimum" => return some (.minimum (← numeral v) true)
  | "format" => formatConstraint ctx v
  | "if" => conditional read ctx ms v
  | "items" => return some (← itemsConstraint read ctx ms v)
  | "maximum" => return some (.maximum (← numeral v) (isExclusive ctx ms "exclusiveMaximum"))
  | "maxItems" => return some (.itemCount false (← count v))
  | "maxLength" => return some (.length false (← count v))
  | "maxProperties" => return some (.propertyCount false (← count v))
  | "minimum" => return some (.minimum (← numeral v) (isExclusive ctx ms "exclusiveMinimum"))
  | "minItems" => return some (.itemCount true (← count v))
  | "minLength" => return some (.length true (← count v))
  | "minProperties" => return some (.propertyCount true (← count v))
  | "multipleOf" => return some (.multipleOf (← numeral v))
  | "not" => return some (.excluded v (← read ctx v))
  | "oneOf" => return some (.oneOf (← several read ctx v))
  | "pattern" =>
    let s ← text v
    return some (.pattern s (← regex s v))
  | "patternProperties" =>
    if takesProperties ms then return none
    return some (.patterns (← byPattern read ctx v))
  | "prefixItems" => return some (.tuple (← several read ctx v))
  | "properties" =>
    if takesProperties ms then return none
    return some (.properties (← named read ctx v))
  | "propertyNames" => return some (.propertyNames (← read ctx v))
  | "required" => return some (.required (← requiredKeys v))
  | "type" => return some (.types (← typeNames v) (ctx.draft == .four))
  | "unevaluatedItems" => return some (.unevaluatedItems (← read ctx v))
  | "unevaluatedProperties" => return some (.unevaluatedProperties (← read ctx v))
  | "uniqueItems" =>
    match v with
    | .bool true => return some .unique
    | _ => return none
  | _ => return none

/-- The members that count: in older drafts a reference stands alone. -/
def countingMembers (d : Draft) (ms : Members) : Members :=
  if d.atLeast .year2019 then ms
  else
    match ms.lookup "$ref" with
    | some v => [("$ref", v)]
    | none => ms

/-- The schema in a value, read with a reader for the schemas in it. -/
def schemaWith (read : SchemaReader) : SchemaReader := fun ctx v => do
  match v with
  | .bool true => return .anything
  | .bool false => return .nothing
  | .object ms =>
    let ctx := { ctx with base := baseWithin ctx.draft ctx.base v }
    let counting := countingMembers ctx.draft ms
    let cs ← counting.filterMapM fun (k, w) => keyword read ctx counting k w
    return .all cs
  | v => refuse v (.wrongType [.boolean, .object])

/-- The schema in a value in which fewer than `n` lie within another. -/
def schemaWithin : Nat → SchemaReader
  | 0 => fun _ _ => return .anything
  | n + 1 => schemaWith (schemaWithin n)

def readRoot (library : Library) (s : Source) : Except Fault Compiled :=
  let budget := (library.sources.map (·.root.size)).foldl (· + ·) 1
  let root : Place := ⟨s.uri, []⟩
  match schemaWithin budget ⟨library, s.draft, s.uri⟩ s.root ⟨[root], []⟩ with
  | .ok schema state => .ok ⟨schema, (root, schema) :: state.table, budget⟩
  | .error f _ => .error f

end PluginAudit.Schema
