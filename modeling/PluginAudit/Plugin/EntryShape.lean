import PluginAudit.Plugin.Header

/-!
# The written shape of an entry point

In a text that is no script, entry points are told by how they are written:
`return (function name (…) { … }) (…);` with the shortest body possible. Likewise a `return (`
at the start of a line tells that a text is meant for the wrapper.
-/

namespace PluginAudit.Plugin

open Text

/-- The rest after `part`, blanks before it allowed. -/
def afterBlanks? (part text : List Char) : Option (List Char) :=
  after? part (skipBlanks text)

/-- The rest after a parenthesised stretch without `)` in it. -/
def afterParens? (text : List Char) : Option (List Char) := do
  let rest ← afterBlanks? ['('] text
  let (_, rest) ← upTo? ')' rest
  return rest

def isShapeNameCharacter (c : Char) : Bool := c.isAlphanum || c == '_' || c == '$'

/-- What follows the brace that closes the body. -/
def afterBody? (text : List Char) : Option (List Char) := do
  let rest ← afterBlanks? [')'] text
  let rest ← afterParens? rest
  afterBlanks? [';'] rest

/-- The rest after the shortest body that the shape allows. -/
def shortestBody? : List Char → Option (List Char)
  | [] => none
  | c :: cs =>
    if c == '\x7d' then (afterBody? cs).or (shortestBody? cs) else shortestBody? cs

/-- The rest after the word `function`, which must end there. -/
def afterFunctionWord? (text : List Char) : Option (List Char) := do
  let rest ← afterBlanks? "function".toList text
  if (rest.head?.map isWord).getD false then none
  return rest

def entryShape : Matcher Unit := fun _ text => do
  let rest ← after? "return".toList text
  let rest ← afterBlanks? ['('] rest
  let rest ← afterFunctionWord? rest
  let rest := (skipBlanks rest).dropWhile isShapeNameCharacter
  let rest ← afterParens? rest
  let rest ← afterBlanks? ['\x7b'] rest
  let rest ← shortestBody? rest
  return ((), rest)

/-- The number of entry shapes, none within another. -/
def countShapes (text : List Char) : Nat := (matchesIn entryShape text).length

/-- Whether a line begins with `return (`. -/
def hasReturnLine (text : List Char) : Bool :=
  (lineRests text).any fun line =>
    ((afterBlanks? "return".toList line).bind (afterBlanks? ['('])).isSome

end PluginAudit.Plugin
