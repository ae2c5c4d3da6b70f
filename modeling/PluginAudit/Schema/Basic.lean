import PluginAudit.Document.Value
import PluginAudit.Json.Printer
import PluginAudit.Schema.Format

/-!
# Schemas and violations

A schema is a list of constraints. References lead to other places of the document that holds the
schema, so a schema comes with a table of the places referred to.
-/

namespace PluginAudit.Schema

inductive TypeName where
  | array | boolean | integer | null | number | object | string
  deriving DecidableEq, Repr

namespace TypeName

/-- In alphabetic order. -/
def all : List TypeName := [array, boolean, integer, null, number, object, string]

def name : TypeName → String
  | array => "array"
  | boolean => "boolean"
  | integer => "integer"
  | null => "null"
  | number => "number"
  | object => "object"
  | string => "string"

def ofName? (name : String) : Option TypeName := all.find? (·.name == name)

/-- Whether a value is of a type. `strict` refuses `1.0` as an integer. -/
def holds (strict : Bool) : TypeName → Value → Bool
  | array, .array _ => true
  | boolean, .bool _ => true
  | integer, .number (.int _) => true
  | integer, .number (.float x) => !strict && x.isIntegral
  | null, .null => true
  | number, .number _ => true
  | object, .object _ => true
  | string, .string _ => true
  | _, _ => false

end TypeName

/-- A place in a document, by the identifier of the document and the steps from its root. -/
structure Place where
  document : String
  steps : List String
  deriving DecidableEq, Repr

mutual

inductive Schema where
  | anything
  | nothing
  | all (constraints : List Constraint)

inductive Constraint where
  | reference (place : Place)
  | types (ts : List TypeName) (strict : Bool)
  | enum (options : List Value)
  | const (v : Value)
  | minimum (limit : Numeral) (exclusive : Bool)
  | maximum (limit : Numeral) (exclusive : Bool)
  | multipleOf (n : Numeral)
  | length (least : Bool) (n : Nat)
  | itemCount (least : Bool) (n : Nat)
  | propertyCount (least : Bool) (n : Nat)
  | pattern (text : String) (e : Regex.Expr)
  | format (f : Format)
  /-- All items but the first ones. -/
  | items (skipped : Nat) (s : Schema)
  /-- The first items, one by one. -/
  | tuple (ss : List Schema)
  | noMoreItems (count : Nat)
  | contains (s : Schema) (least most : Option Nat)
  | unique
  | required (keys : List String)
  | properties (known : List (String × Schema))
  | patterns (ps : List (Regex.Expr × Schema))
  /-- Known properties, properties by pattern, and the schema of all others. -/
  | additional (known : List (String × Schema)) (ps : List (Regex.Expr × Schema)) (rest : Schema)
  /-- Known properties and properties by pattern, and no others. -/
  | closed (known : List (String × Schema)) (ps : List (Regex.Expr × Schema))
  | noProperties
  | propertyNames (s : Schema)
  /-- What must hold of an object that has a key. -/
  | dependent (ss : List (String × Schema))
  | allOf (ss : List Schema)
  | anyOf (ss : List Schema)
  | oneOf (ss : List Schema)
  | excluded (source : Value) (s : Schema)
  | conditional (test : Schema) (yes no : Option Schema)
  /-- Properties that no other constraint of the schema has looked at. -/
  | unevaluatedProperties (s : Schema)
  | unevaluatedItems (s : Schema)

end

abbrev Table := List (Place × Schema)

/-! ## Violations -/

inductive Piece where
  | key (k : String)
  | index (i : Nat)
  deriving DecidableEq, Repr

inductive Cause where
  | wrongType (ts : List TypeName)
  | notAnOption (options : List Value)
  | notTheValue (v : Value)
  | below (limit : Numeral) (exclusive : Bool)
  | above (limit : Numeral) (exclusive : Bool)
  | notMultiple (n : Numeral)
  | tooShort (n : Nat)
  | tooLong (n : Nat)
  | tooFewItems (n : Nat)
  | tooManyItems (n : Nat)
  | tooFewProperties (n : Nat)
  | tooManyProperties (n : Nat)
  | noMatch (pattern : String)
  | wrongFormat (name : String)
  | extraItems (items : List Value)
  | noneContained
  | notUnique
  | missing (key : String)
  | extraProperties (keys : List String)
  | unevaluatedProperties (keys : List String)
  | unevaluatedItems (items : List Value)
  | noneOfAny | noneOfOne | severalOfOne
  | excluded (source : Value)
  | nothingAllowed
  deriving Repr

structure Violation where
  /-- The steps to the value, the last first. -/
  path : List Piece
  value : Value
  cause : Cause
  deriving Repr

def counted (n : Nat) (one many : String) : String :=
  toString n ++ " " ++ (if n == 1 then one else many)

def listed (texts : List String) : String := ", ".intercalate texts

def unexpected (texts : List String) : String :=
  "(" ++ listed texts ++ (if texts.length == 1 then " was unexpected)" else " were unexpected)")

def singleQuoted (key : String) : String := "'" ++ key ++ "'"

def doubleQuoted (text : String) : String := "\"" ++ text ++ "\""

def Cause.message (value : String) : Cause → String
  | wrongType [t] => value ++ " is not of type " ++ doubleQuoted t.name
  | wrongType ts =>
    let names := (TypeName.all.filter ts.contains).map fun t => doubleQuoted t.name
    value ++ " is not of types " ++ listed names
  | notAnOption options => value ++ " is not one of " ++ Json.compact (.array options)
  | notTheValue v => Json.compact v ++ " was expected"
  | below limit false => value ++ " is less than the minimum of " ++ Json.numeralText limit
  | below limit true =>
    value ++ " is less than or equal to the minimum of " ++ Json.numeralText limit
  | above limit false => value ++ " is greater than the maximum of " ++ Json.numeralText limit
  | above limit true =>
    value ++ " is greater than or equal to the maximum of " ++ Json.numeralText limit
  | notMultiple n => value ++ " is not a multiple of " ++ Json.numeralText n
  | tooShort n => value ++ " is shorter than " ++ counted n "character" "characters"
  | tooLong n => value ++ " is longer than " ++ counted n "character" "characters"
  | tooFewItems n => value ++ " has less than " ++ counted n "item" "items"
  | tooManyItems n => value ++ " has more than " ++ counted n "item" "items"
  | tooFewProperties n => value ++ " has less than " ++ counted n "property" "properties"
  | tooManyProperties n => value ++ " has more than " ++ counted n "property" "properties"
  | noMatch pattern => value ++ " does not match " ++ doubleQuoted pattern
  | wrongFormat name => value ++ " is not a " ++ doubleQuoted name
  | extraItems items =>
    "Additional items are not allowed " ++ unexpected (items.map Json.compact)
  | noneContained => "None of " ++ value ++ " are valid under the given schema"
  | notUnique => value ++ " has non-unique elements"
  | missing key => Json.quoted key ++ " is a required property"
  | extraProperties keys =>
    "Additional properties are not allowed " ++ unexpected (keys.map singleQuoted)
  | unevaluatedProperties keys =>
    "Unevaluated properties are not allowed " ++ unexpected (keys.map singleQuoted)
  | unevaluatedItems items =>
    "Unevaluated items are not allowed " ++ unexpected (items.map Json.compact)
  | noneOfAny =>
    value ++ " is not valid under any of the schemas listed in the 'anyOf' keyword"
  | noneOfOne =>
    value ++ " is not valid under any of the schemas listed in the 'oneOf' keyword"
  | severalOfOne =>
    value ++ " is valid under more than one of the schemas listed in the 'oneOf' keyword"
  | excluded source => Json.compact source ++ " is not allowed for " ++ value
  | nothingAllowed => "False schema does not allow " ++ value

/-- A key in a pointer: `~` and `/` are written as `~0` and `~1`. -/
def pointerKey (key : String) : String :=
  String.ofList (key.toList.flatMap fun c =>
    if c == '~' then ['~', '0'] else if c == '/' then ['~', '1'] else [c])

def Piece.text : Piece → String
  | key k => "/" ++ pointerKey k
  | index i => "/" ++ toString i

namespace Violation

def message (v : Violation) : String := v.cause.message (Json.compact v.value)

/-- The place of the value, empty for the root. -/
def pointer (v : Violation) : String := String.join (v.path.reverse.map Piece.text)

def display (v : Violation) : String :=
  v.message ++ " (at " ++ (if v.pointer.isEmpty then "root" else v.pointer) ++ ")"

end Violation

end PluginAudit.Schema
