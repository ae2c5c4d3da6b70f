/-!
# Tokens of scripts

What the lexer hands to the grammar. Words of the language (reserved or with a meaning in some
places only) and operator signs carry their text; all other names are `name`.
-/

namespace PluginAudit.Script

inductive NumberForm where
  | decimal | float | binary | octal | hex
  deriving DecidableEq, Repr

/-- Where a piece of template text stands: `` `…` ``, `` `…${ ``, `}…${` or `` }…` ``. -/
inductive TemplatePart where
  | whole | head | middle | tail
  deriving DecidableEq, Repr

inductive TokenKind where
  | endOfText
  /-- Refused by the lexer. -/
  | unknown
  | hashbang
  | name
  | word (text : String)
  | sign (text : String)
  | string
  | number (form : NumberForm)
  | regex
  | template (part : TemplatePart)
  | privateName
  deriving DecidableEq, Repr

structure Token where
  kind : TokenKind
  start : Nat
  stop : Nat
  raw : List Char
  /-- A line ends between the token before and this one. -/
  afterNewline : Bool
  /-- A name or word written with an escape. -/
  escaped : Bool
  /-- The value of a name or string; none for template text with a malformed escape. -/
  value : Option String
  deriving Repr

/-- Words that never name a variable. -/
def reservedWords : List String :=
  ["await", "break", "case", "catch", "class", "const", "continue", "debugger", "default",
   "delete", "do", "else", "enum", "export", "extends", "false", "finally", "for", "function",
   "if", "import", "in", "instanceof", "new", "null", "return", "super", "switch", "this",
   "throw", "true", "try", "typeof", "var", "void", "while", "with", "yield"]

/-- Words with a meaning in some places, names in all others. -/
def contextualWords : List String :=
  ["as", "is", "of", "any", "get", "let", "out", "set", "from", "meta", "type", "async", "infer",
   "keyof", "never", "using", "assert", "bigint", "global", "module", "number", "object",
   "public", "static", "string", "symbol", "target", "unique", "asserts", "boolean", "declare",
   "package", "private", "require", "unknown", "abstract", "accessor", "override", "readonly",
   "interface", "intrinsic", "namespace", "protected", "satisfies", "undefined", "implements",
   "constructor"]

/-- Contextual words that no script in strict mode may use as names. -/
def strictWords : List String :=
  ["implements", "interface", "let", "package", "private", "protected", "public", "static"]

def modifierWords : List String :=
  ["abstract", "accessor", "async", "const", "declare", "default", "export", "in", "out",
   "public", "private", "protected", "readonly", "static", "override"]

/-- The kind of a name with the given value. -/
def TokenKind.ofName (value : String) : TokenKind :=
  if reservedWords.contains value || contextualWords.contains value then .word value else .name

namespace TokenKind

def is (k : TokenKind) (text : String) : Bool :=
  match k with
  | .word t => t == text
  | .sign t => t == text
  | _ => false

def isOneOf (k : TokenKind) (texts : List String) : Bool :=
  match k with
  | .word t => texts.contains t
  | .sign t => texts.contains t
  | _ => false

def isWord : TokenKind → Bool
  | .word _ => true
  | _ => false

def isReserved : TokenKind → Bool
  | .word t => reservedWords.contains t
  | _ => false

/-- A name as in `a.name`: any word will do. -/
def isNameText : TokenKind → Bool
  | .name => true
  | .word _ => true
  | _ => false

/-- A name of a variable; `yield` and `await` are judged by their place. -/
def isVariable : TokenKind → Bool
  | .name => true
  | .word t => !reservedWords.contains t || t == "yield" || t == "await"
  | _ => false

def isPlainVariable (k : TokenKind) : Bool :=
  k.isVariable && !k.is "yield" && !k.is "await"

def isNumber : TokenKind → Bool
  | .number _ => true
  | _ => false

def isLiteral : TokenKind → Bool
  | .string | .number _ | .regex => true
  | .word t => t == "null" || t == "true" || t == "false"
  | _ => false

def isLiteralKey (k : TokenKind) : Bool :=
  k.isNameText || k == .string || k.isNumber

def isMemberStart (k : TokenKind) : Bool :=
  k.is "[" || k == .privateName || k.isLiteralKey

def followsModifier (k : TokenKind) : Bool :=
  k.isOneOf ["\x7b", "*", "..."] || k.isMemberStart

def followsExport (k : TokenKind) : Bool :=
  k.is "@" || (!k.isOneOf ["*", "as", "\x7b"] && k.followsModifier)

def isModifier : TokenKind → Bool
  | .word t => modifierWords.contains t
  | _ => false

def binarySigns : List String :=
  ["==", "!=", "===", "!==", "<", "<=", ">", ">=", "<<", ">>", ">>>", "+", "-", "*", "/", "%",
   "|", "^", "&", "in", "instanceof", "**"]

def logicalSigns : List String := ["||", "&&", "??"]

def assignmentSigns : List String :=
  ["=", "+=", "-=", "*=", "/=", "%=", "<<=", ">>=", ">>>=", "|=", "^=", "&=", "**=", "||=",
   "&&=", "??="]

def isBinary (k : TokenKind) : Bool := k.isOneOf binarySigns

def isLogical (k : TokenKind) : Bool := k.isOneOf logicalSigns

def isAssignment (k : TokenKind) : Bool := k.isOneOf assignmentSigns

def isUnary (k : TokenKind) : Bool :=
  k.isOneOf ["delete", "void", "typeof", "+", "-", "~", "!"]

def isUpdate (k : TokenKind) : Bool := k.isOneOf ["++", "--"]

/-- The start of an operand that turns a preceding `await` or `yield` into an operator. -/
def startsOperand (k : TokenKind) : Bool :=
  !k.isBinary && (k.isLiteral || k == .name || k.isWord)

/-- What may follow `let` in a declaration at the head of a loop. -/
def followsLet (k : TokenKind) : Bool :=
  !k.is "in" && (k.is "\x7b" || k.is "[" || k.isNameText)

/-- The name of the kind in messages: for a word its text, with one misspelled. -/
def describe : TokenKind → String
  | .endOfText => "EOF"
  | .unknown => "Unknown"
  | .hashbang => "#!"
  | .name => "Identifier"
  | .word "namespace" => "namaespace"
  | .word t => t
  | .sign t => t
  | .string => "string"
  | .number .decimal => "decimal"
  | .number .float => "float"
  | .number .binary => "binary"
  | .number .octal => "octal"
  | .number .hex => "hex"
  | .regex => "/regexp/"
  | .template .whole => "$\x7b\x7d"
  | .template .head => "$\x7b"
  | .template .middle => "$\x7bexpr\x7d"
  | .template .tail => "$\x7d"
  | .privateName => "#identifier"

end TokenKind

namespace Token

def is (t : Token) (text : String) : Bool := t.kind.is text

end Token

end PluginAudit.Script
