import PluginAudit.Script.Edition
import PluginAudit.Text.Characters
import PluginAudit.Text.Search

/-!
# Plugin headers

A plugin says what it is in comments on its first lines: its name, a description and a type. The
type decides the category, and the category the edition of the language it is held to.
-/

namespace PluginAudit.Plugin

open Text Script

inductive Category where
  | domExecuting
  | apiCalling
  | unclassified
  deriving DecidableEq, Repr

namespace Category

def edition : Category → Edition
  | domExecuting => .es2015
  | apiCalling | unclassified => .es5

/-- Exactly one entry point is required. -/
def singleEntryPoint (c : Category) : Bool := c == domExecuting

/-- The plugin is read as the body of its wrapper. -/
def wrapped (c : Category) : Bool := c == domExecuting

end Category

def headerLines : Nat := 5

/-- The first `n` lines without the last line end. -/
def firstLines : Nat → List Char → List Char
  | _, [] => []
  | 0, _ => []
  | n + 1, c :: cs =>
    if c == '\n' then if n == 0 then [] else c :: firstLines n cs
    else c :: firstLines (n + 1) cs

def headerBlock (text : List Char) : List Char := firstLines headerLines text

def skipBlanks (text : List Char) : List Char := text.dropWhile isBlank

/-- After a word, blanks and a colon: the rest from the first character of the value. -/
def labelled? (label : String) (text : List Char) : Option (List Char) := do
  let rest ← after? label.toList text
  let rest ← after? [':'] (skipBlanks rest)
  return skipBlanks rest

def isTypeCharacter (c : Char) : Bool := c.isAlphanum || c == '_' || c == '-'

/-- `type: token`, where `type` begins a word. -/
def typeMarker : Matcher (List Char) := fun before text => do
  if (before.map isWord).getD false then none
  let rest ← labelled? "type" text
  let token := rest.takeWhile isTypeCharacter
  if token.isEmpty then none
  return (token, rest.dropWhile isTypeCharacter)

def trimmedLine (text : List Char) : List Char :=
  ((text.takeWhile (· != '\n')).reverse.dropWhile isBlank).reverse

/-- The value of a comment `// label: value` on a line of its own. -/
def comment? (label : String) (line : List Char) : Option (List Char) := do
  let rest ← after? "//".toList (skipBlanks line)
  let rest ← labelled? label (skipBlanks rest)
  if rest.isEmpty then none
  return trimmedLine rest

structure Header where
  category : Category
  edition : Edition
  declaredType : Option String
  name : Option String
  description : Option String
  deriving DecidableEq, Repr

def domType : String := "vdi_plugin"

def apiType : String := "engine_plugin"

/-- The category of the types found in a header; a known type anywhere wins over other words. -/
def classifyTypes (types : List String) : Category × Option String :=
  if types.contains domType then (.domExecuting, some domType)
  else if types.contains apiType then (.apiCalling, some apiType)
  else (.unclassified, types.head?)

def firstComment? (label : String) (block : List Char) : Option String :=
  ((lineRests block).findSome? (comment? label)).map String.ofList

def classify (text : List Char) : Header :=
  let block := headerBlock text
  let (category, declared) := classifyTypes ((matchesIn typeMarker block).map String.ofList)
  { category := category
    edition := category.edition
    declaredType := declared
    name := firstComment? "name" block
    description := firstComment? "description" block }

@[simp] theorem edition_classify (text : List Char) :
    (classify text).edition = (classify text).category.edition := rfl

end PluginAudit.Plugin
