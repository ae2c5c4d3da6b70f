import PluginAudit.Schema.Reader

/-!
# Schemas of schemas

For each draft, the schema that its schemas have to fit. The vocabularies of the later drafts are
put together in one document, in their order.
-/

namespace PluginAudit.Schema.Standard

def text (s : String) : Value := .string s

def object (ms : List (String × Value)) : Value := .ofMembers ms

def texts (ss : List String) : Value := .array (ss.map text)

def typed (name : String) : Value := object [("type", text name)]

def withFormat (name : String) : Value := object [("type", text "string"), ("format", text name)]

def refTo (place : String) : Value := object [("$ref", text place)]

def itself : Value := refTo "#"

def anyOf (vs : List Value) : Value := object [("anyOf", .array vs)]

def mapOf (v : Value) : Value := object [("type", text "object"), ("additionalProperties", v)]

def mapByRegex (v : Value) : Value :=
  object [("type", text "object"), ("additionalProperties", v),
    ("propertyNames", object [("format", text "regex")])]

def arrayOf (v : Value) : Value := object [("type", text "array"), ("items", v)]

def nonEmptyArrayOf (v : Value) : Value :=
  object [("type", text "array"), ("minItems", .ofNat 1), ("items", v)]

def natural : Value := object [("type", text "integer"), ("minimum", .ofNat 0)]

def simpleTypes : Value := object [("enum", texts (TypeName.all.map TypeName.name))]

def distinctTexts : List (String × Value) :=
  [("type", text "array"), ("items", typed "string"), ("uniqueItems", .bool true)]

def options : Value := object
  [("type", text "array"), ("minItems", .ofNat 1), ("uniqueItems", .bool true)]

/-- A type or several, where the types are told at a place. -/
def typeKeyword (place : String) : Value :=
  anyOf [refTo place, object [("type", text "array"), ("items", refTo place),
    ("minItems", .ofNat 1), ("uniqueItems", .bool true)]]

def positive : Value := object [("type", text "number"), ("exclusiveMinimum", .ofNat 0)]

/-- Members of the same schema under several keys. -/
def each (keys : List String) (v : Value) : List (String × Value) := keys.map fun k => (k, v)

def counts : List String :=
  ["maxItems", "maxLength", "maxProperties", "minItems", "minLength", "minProperties"]

/-! ## Drafts in one piece -/

def definitions (naturalName : String) (stringArray : Value) : Value :=
  object [("schemaArray", nonEmptyArrayOf itself), (naturalName, natural),
    ("simpleTypes", simpleTypes), ("stringArray", stringArray)]

def booleanOrItself : Value := anyOf [typed "boolean", itself]

def schemaArray : Value := refTo "#/definitions/schemaArray"

def itemsKeyword : Value := anyOf [itself, schemaArray]

def dependenciesKeyword : Value := mapOf (anyOf [itself, refTo "#/definitions/stringArray"])

def four : Value :=
  object [("$schema", text "http://json-schema.org/draft-04/schema#"),
    ("id", text "http://json-schema.org/draft-04/schema#"),
    ("definitions", definitions "positiveInteger"
      (object (("minItems", .ofNat 1) :: distinctTexts))),
    ("type", text "object"),
    ("dependencies", object [("exclusiveMaximum", texts ["maximum"]),
      ("exclusiveMinimum", texts ["minimum"])]),
    ("properties", object (
      each ["id", "title", "description", "format"] (typed "string") ++
      each ["$schema"] (withFormat "uri") ++
      each ["multipleOf"] (object [("type", text "number"), ("minimum", .ofNat 0),
        ("exclusiveMinimum", .bool true)]) ++
      each ["maximum", "minimum"] (typed "number") ++
      each ["exclusiveMaximum", "exclusiveMinimum", "uniqueItems"] (typed "boolean") ++
      each counts (refTo "#/definitions/positiveInteger") ++
      each ["pattern"] (withFormat "regex") ++
      each ["additionalItems", "additionalProperties"] booleanOrItself ++
      each ["items"] itemsKeyword ++
      each ["required"] (refTo "#/definitions/stringArray") ++
      each ["definitions", "properties", "patternProperties"] (mapOf itself) ++
      each ["dependencies"] dependenciesKeyword ++
      each ["enum"] options ++
      each ["type"] (typeKeyword "#/definitions/simpleTypes") ++
      each ["allOf", "anyOf", "oneOf"] schemaArray ++
      each ["not"] itself))]

def sixProperties : List (String × Value) :=
  each ["$id", "$ref"] (withFormat "uri-reference") ++
  each ["$schema"] (withFormat "uri") ++
  each ["title", "description", "format"] (typed "string") ++
  each ["examples"] (typed "array") ++
  each ["multipleOf"] positive ++
  each ["maximum", "exclusiveMaximum", "minimum", "exclusiveMinimum"] (typed "number") ++
  each counts (refTo "#/definitions/nonNegativeInteger") ++
  each ["pattern"] (withFormat "regex") ++
  each ["additionalItems", "additionalProperties", "contains", "propertyNames", "not"] itself ++
  each ["items"] itemsKeyword ++
  each ["uniqueItems"] (typed "boolean") ++
  each ["required"] (refTo "#/definitions/stringArray") ++
  each ["definitions", "properties", "patternProperties"] (mapOf itself) ++
  each ["dependencies"] dependenciesKeyword ++
  each ["enum"] options ++
  each ["type"] (typeKeyword "#/definitions/simpleTypes") ++
  each ["allOf", "anyOf", "oneOf"] schemaArray

def sevenProperties : List (String × Value) :=
  sixProperties ++
  each ["$comment", "contentMediaType", "contentEncoding"] (typed "string") ++
  each ["readOnly", "writeOnly"] (typed "boolean") ++
  each ["patternProperties"] (mapByRegex itself) ++
  each ["enum"] (typed "array") ++
  each ["if", "then", "else"] itself

def inOnePiece (uri : String) (properties : List (String × Value)) : Value :=
  object [("$schema", text uri), ("$id", text uri),
    ("definitions", definitions "nonNegativeInteger" (object distinctTexts)),
    ("type", texts ["object", "boolean"]), ("properties", object properties)]

/-! ## Drafts in vocabularies -/

def vocabulary (properties : List (String × Value)) : Value :=
  object [("type", texts ["object", "boolean"]), ("properties", object properties)]

def schemasPlace : Value := refTo "#/$defs/schemaArray"

def stringsPlace : Value := refTo "#/$defs/stringArray"

def validation : Value := vocabulary (
  each ["multipleOf"] positive ++
  each ["maximum", "exclusiveMaximum", "minimum", "exclusiveMinimum"] (typed "number") ++
  each (counts ++ ["maxContains", "minContains"]) (refTo "#/$defs/nonNegativeInteger") ++
  each ["pattern"] (withFormat "regex") ++
  each ["uniqueItems"] (typed "boolean") ++
  each ["required"] stringsPlace ++
  each ["dependentRequired"] (mapOf stringsPlace) ++
  each ["enum"] (typed "array") ++
  each ["type"] (typeKeyword "#/$defs/simpleTypes"))

def remarks : Value := vocabulary (
  each ["title", "description"] (typed "string") ++
  each ["deprecated", "readOnly", "writeOnly"] (typed "boolean") ++
  each ["examples"] (typed "array"))

def formatVocabulary : Value := vocabulary [("format", typed "string")]

def contentVocabulary : Value := vocabulary (
  each ["contentMediaType", "contentEncoding"] (typed "string") ++ each ["contentSchema"] itself)

/-- Keywords with schemas in them, which the two drafts in vocabularies share. -/
def applying : List (String × Value) :=
  each ["contains", "additionalProperties", "propertyNames", "if", "then", "else", "not"] itself ++
  each ["properties", "dependentSchemas"] (mapOf itself) ++
  each ["patternProperties"] (mapByRegex itself) ++
  each ["allOf", "anyOf", "oneOf"] schemasPlace

def identifier (form : Value) : Value :=
  match form with
  | .object ms => object (ms ++ [("pattern", text "^[^#]*#?$")])
  | v => v

def named (pattern : String) : Value :=
  object [("type", text "string"), ("pattern", text pattern)]

def vocabularyMap (names : Value) : Value :=
  object [("type", text "object"), ("propertyNames", names),
    ("additionalProperties", typed "boolean")]

def sharedCore : List (String × Value) :=
  each ["$id"] (identifier (withFormat "uri-reference")) ++
  each ["$schema"] (withFormat "uri") ++
  each ["$ref"] (withFormat "uri-reference") ++
  each ["$vocabulary"] (vocabularyMap (withFormat "uri")) ++
  each ["$comment"] (typed "string") ++
  each ["$defs"] (mapOf itself)

def core2019 : Value := vocabulary (
  sharedCore ++
  each ["$anchor"] (named "^[A-Za-z][-A-Za-z0-9.:_]*$") ++
  each ["$recursiveRef"] (withFormat "uri-reference") ++
  each ["$recursiveAnchor"] (typed "boolean"))

def anchorName : Value := named "^[A-Za-z_][-A-Za-z0-9._]*$"

def core2020 : Value := vocabulary (
  sharedCore ++
  each ["$anchor", "$dynamicAnchor"] anchorName ++
  each ["$dynamicRef"] (withFormat "uri-reference"))

def applicator2019 : Value := vocabulary (
  applying ++
  each ["additionalItems", "unevaluatedItems", "unevaluatedProperties"] itself ++
  each ["items"] (anyOf [itself, schemasPlace]))

def applicator2020 : Value := vocabulary (
  applying ++ each ["prefixItems"] schemasPlace ++ each ["items"] itself)

def unevaluated : Value := vocabulary (
  each ["unevaluatedItems", "unevaluatedProperties"] itself)

def inVocabularies (uri : String) (vs : List Value) (more : List (String × Value)) : Value :=
  object [("$schema", text uri), ("$id", text uri), ("allOf", .array vs),
    ("type", texts ["object", "boolean"]),
    ("$defs", object [("schemaArray", nonEmptyArrayOf itself), ("nonNegativeInteger", natural),
      ("simpleTypes", simpleTypes), ("stringArray", object distinctTexts)]),
    ("properties", object (
      [("definitions", mapOf itself), ("dependencies", mapOf (anyOf [itself, stringsPlace]))] ++
        more))]

def schemaOf : Draft → Value
  | .four => four
  | .six => inOnePiece "http://json-schema.org/draft-06/schema#" sixProperties
  | .seven => inOnePiece "http://json-schema.org/draft-07/schema#" sevenProperties
  | .year2019 => inVocabularies "https://json-schema.org/draft/2019-09/schema"
      [core2019, applicator2019, validation, remarks, formatVocabulary, contentVocabulary] []
  | .year2020 => inVocabularies "https://json-schema.org/draft/2020-12/schema"
      [core2020, applicator2020, unevaluated, validation, remarks, formatVocabulary,
        contentVocabulary]
      [("$recursiveAnchor", anchorName), ("$recursiveRef", withFormat "uri-reference")]

def source (d : Draft) : Source := ⟨d.uri, d, schemaOf d⟩

def library : Library := .ofSources (Draft.all.map source)

def compiled : List (Draft × Except Fault Compiled) :=
  Draft.all.map fun d => (d, readRoot library (source d))

end PluginAudit.Schema.Standard
