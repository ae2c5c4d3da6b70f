/-!
# Faults of YAML texts
-/

namespace PluginAudit.Yaml

/-- A place in a text; all numbers count characters and begin at 0. -/
structure Mark where
  line : Nat
  column : Nat
  index : Nat
  deriving DecidableEq, Repr, Inhabited

namespace Mark

def isStart (m : Mark) : Bool := m.line == 0 && m.column == 0

def text (m : Mark) : String :=
  " at line " ++ toString (m.line + 1) ++ " column " ++ toString (m.column + 1)

/-- The place, but nothing for the start of the text. -/
def shown (m : Mark) : String := if m.isStart then "" else m.text

end Mark

inductive Problem where
  | badToken | badKey
  | sequenceHere | keyHere | valueHere
  | emptyDirective | badDirectiveName | unknownDirective
  | longVersion | badVersion | missingVersion | wrongVersion | repeatedVersion
  | directiveSpace | directiveEnd | repeatedTag | undefinedHandle
  | missingBang | emptyTag | badUriEscape | badUriHead | badUriTail | unclosedTag | spaceOrBreak
  | badAnchor
  | zeroIndent | commentOrBreak | tabInIndent
  | documentInQuotes | endInQuotes | unknownEscape | badHex | badCodePoint
  | colonInFlow | tabInPlain
  | noDocumentStart | noContent | noDash | noKey | noCommaOrBracket | noCommaOrBrace
  deriving DecidableEq, Repr

def Problem.message : Problem → String
  | badToken => "found character that cannot start any token"
  | badKey => "could not find expected ':'"
  | sequenceHere => "block sequence entries are not allowed in this context"
  | keyHere => "mapping keys are not allowed in this context"
  | valueHere => "mapping values are not allowed in this context"
  | emptyDirective => "could not find expected directive name"
  | badDirectiveName => "found unexpected non-alphabetical character"
  | unknownDirective => "found unknown directive name"
  | longVersion => "found extremely long version number"
  | badVersion => "did not find expected digit or '.' character"
  | missingVersion => "did not find expected version number"
  | wrongVersion => "found incompatible YAML document"
  | repeatedVersion => "found duplicate %YAML directive"
  | directiveSpace => "did not find expected whitespace"
  | directiveEnd => "did not find expected comment or line break"
  | repeatedTag => "found duplicate %TAG directive"
  | undefinedHandle => "found undefined tag handle"
  | missingBang => "did not find expected '!'"
  | emptyTag => "did not find expected tag URI"
  | badUriEscape => "did not find URI escaped octet"
  | badUriHead => "found an incorrect leading UTF-8 octet"
  | badUriTail => "found an incorrect trailing UTF-8 octet"
  | unclosedTag => "did not find the expected '>'"
  | spaceOrBreak => "did not find expected whitespace or line break"
  | badAnchor => "did not find expected alphabetic or numeric character"
  | zeroIndent => "found an indentation indicator equal to 0"
  | commentOrBreak => "did not find expected comment or line break"
  | tabInIndent => "found a tab character where an indentation space is expected"
  | documentInQuotes => "found unexpected document indicator"
  | endInQuotes => "found unexpected end of stream"
  | unknownEscape => "found unknown escape character"
  | badHex => "did not find expected hexdecimal number"
  | badCodePoint => "found invalid Unicode character escape code"
  | colonInFlow => "found unexpected ':'"
  | tabInPlain => "found a tab character that violates indentation"
  | noDocumentStart => "did not find expected <document start>"
  | noContent => "did not find expected node content"
  | noDash => "did not find expected '-' indicator"
  | noKey => "did not find expected key"
  | noCommaOrBracket => "did not find expected ',' or ']'"
  | noCommaOrBrace => "did not find expected ',' or '\x7d'"

inductive Task where
  | token | simpleKey | directive | versionDirective | tagDirective | tag
  | handleDirective | uriDirective | uri
  | anchor | aliasName | blockScalar | quotedScalar | escape | plainScalar
  | node | blockNode | flowNode | blockCollection | blockMapping | flowSequence | flowMapping
  deriving DecidableEq, Repr

def Task.message : Task → String
  | token => "while scanning for the next token"
  | simpleKey => "while scanning a simple key"
  | directive => "while scanning a directive"
  | versionDirective => "while scanning a %YAML directive"
  | tagDirective => "while scanning a %TAG directive"
  | tag => "while scanning a tag"
  | handleDirective => "while parsing a tag directive"
  | uriDirective => "while parsing a %TAG directive"
  | uri => "while parsing a tag"
  | anchor => "while scanning an anchor"
  | aliasName => "while scanning an alias"
  | blockScalar => "while scanning a block scalar"
  | quotedScalar => "while scanning a quoted scalar"
  | escape => "while parsing a quoted scalar"
  | plainScalar => "while scanning a plain scalar"
  | node => "while parsing a node"
  | blockNode => "while parsing a block node"
  | flowNode => "while parsing a flow node"
  | blockCollection => "while parsing a block collection"
  | blockMapping => "while parsing a block mapping"
  | flowSequence => "while parsing a flow sequence"
  | flowMapping => "while parsing a flow mapping"

inductive Fault where
  | control (offset : Nat)
  | found (problem : Problem) (mark : Mark) (task : Option (Task × Mark))
  | unknownAnchor (mark : Mark)
  | exhausted
  deriving DecidableEq, Repr

/-- Where a task began, unless the problem is there too. -/
def taskPlace (problem task : Mark) : String :=
  if task.line == problem.line && task.column == problem.column then "" else task.shown

def Fault.message : Fault → String
  | control 0 => "control characters are not allowed"
  | control n => "control characters are not allowed at position " ++ toString n
  | found p mark none => p.message ++ mark.shown
  | found p mark (some (task, start)) =>
    p.message ++ mark.shown ++ ", " ++ task.message ++ taskPlace mark start
  | unknownAnchor mark => "unknown anchor" ++ mark.shown
  | exhausted => "EOF while parsing a value"

end PluginAudit.Yaml
