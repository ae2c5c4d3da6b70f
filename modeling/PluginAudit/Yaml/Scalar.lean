import PluginAudit.Yaml.Token

/-!
# Reading scalars
-/

namespace PluginAudit.Yaml

open SourceM Text

/-- Blanks and line breaks between two words of a scalar. -/
structure Gap where
  blanks : List Char := []
  first : Option (List Char) := none
  more : List Char := []

namespace Gap

/-- What the gap stands for: a single line break is a blank, and of several the first is left
out. -/
def folded (g : Gap) : List Char :=
  match g.first with
  | none => g.blanks
  | some ['\n'] => if g.more.isEmpty then [' '] else g.more
  | some b => b ++ g.more

def isEmpty (g : Gap) : Bool := g.blanks.isEmpty && g.first.isNone

def addBreak (g : Gap) (b : List Char) : Gap :=
  match g.first with
  | none => { blanks := [], first := some b }
  | some _ => { g with more := g.more ++ b }

end Gap

/-- Reads a gap on; `check` looks at each blank after a line break. -/
def readGap (check : SourceM Unit) (gap : Gap) : SourceM Gap := do
  loop gap fun (g : Gap) => do
    match ← peek with
    | none => return .inr g
    | some c =>
      if isSpaceOrTab c then
        if g.first.isSome then
          check
          skip
          return .inl g
        skip
        return .inl { g with blanks := g.blanks ++ [c] }
      else if isBreak c then return .inl (g.addBreak (← lineBreak))
      else return .inr g

/-! ## Plain scalars -/

/-- Whether a `:` in a flow collection stands before a sign that it may not touch. -/
def colonBeforeSign : SourceM Bool := do
  if !(← inFlow) || !(← sees ':') then return false
  match ← peekAt 1 with
  | some c => return [',', '?', '[', ']', '\x7b', '\x7d'].contains c
  | none => return false

/-- Whether a sign that ends a plain scalar stands here. -/
def atPlainEnd : SourceM Bool := do
  match ← peek with
  | none => return true
  | some c =>
    if c == ':' && endsWord (← peekAt 1) then return true
    return (← inFlow) && [',', '[', ']', '\x7b', '\x7d'].contains c

structure PlainState where
  /-- Newest first. -/
  text : List Char
  stop : Mark
  gap : Gap

def plainWord (start : Mark) (s : PlainState) : SourceM PlainState := do
  loop s fun (s : PlainState) => do
    let c? ← peek
    if endsWord c? then return .inr s
    if ← colonBeforeSign then fail .colonInFlow .plainScalar start
    if ← atPlainEnd then return .inr s
    let text := s.gap.folded.reverse ++ s.text
    skip
    return .inl ⟨c?.toList ++ text, ← mark, {}⟩

def tabCheck (start : Mark) (indent : Int) : SourceM Unit := do
  if (← mark).column < indent && (← sees '\t') then fail .tabInPlain .plainScalar start

def plainScalar : SourceM Token := do
  let start ← mark
  let indent := (← get).indent + 1
  let s ← loop (⟨[], start, {}⟩ : PlainState) fun (s : PlainState) => do
    if (← atDocumentSign) || (← sees '#') then return .inr s
    let s ← plainWord start s
    match ← peek with
    | none => return .inr s
    | some c =>
      if !isSpaceOrTab c && !isBreak c then return .inr s
      let gap ← readGap (tabCheck start indent) s.gap
      let s := { s with gap := gap }
      if !(← inFlow) && (← mark).column < indent then return .inr s
      return .inl s
  if s.gap.first.isSome then modify fun t => { t with keyAllowed := true }
  return ⟨.scalar s.text.reverse .plain, start, s.stop⟩

/-! ## Quoted scalars -/

def simpleEscape? (c : Char) : Option Char :=
  match c with
  | '0' => some '\x00'
  | 'a' => some '\x07'
  | 'b' => some '\x08'
  | 't' => some '\t'
  | '\t' => some '\t'
  | 'n' => some '\n'
  | 'v' => some '\x0b'
  | 'f' => some '\x0c'
  | 'r' => some '\r'
  | 'e' => some '\x1b'
  | ' ' => some ' '
  | '"' => some '"'
  | '/' => some '/'
  | '\\' => some '\\'
  | 'N' => some '\u0085'
  | '_' => some '\u00a0'
  | 'L' => some '\u2028'
  | 'P' => some '\u2029'
  | _ => none

def numberedEscape? (c : Char) : Option Nat :=
  match c with
  | 'x' => some 2
  | 'u' => some 4
  | 'U' => some 8
  | _ => none

def escapedCharacter (start : Mark) : SourceM Char := do
  let some c ← peekAt 1 | fail .unknownEscape .escape start
  if let some d := simpleEscape? c then
    skipMany 2
    return d
  let some n := numberedEscape? c | fail .unknownEscape .escape start
  skipMany 2
  let digits := ((← get).rest.take n).filterMap hexValue?
  if digits.length != n then fail .badHex .escape start
  let value := digits.foldl (fun v d => v * 16 + d) 0
  if (0xD800 ≤ value && value ≤ 0xDFFF) || 0x10FFFF < value then
    fail .badCodePoint .escape start
  skipMany n
  return Char.ofNat value

/-- The characters up to a blank or the closing quote, newest first, and whether an escaped line
break ended them. -/
def quotedWord (quote : Char) (start : Mark) (text : List Char) :
    SourceM (List Char × Bool) := do
  loop text fun (text : List Char) => do
    let c? ← peek
    if endsWord c? then return .inr (text, false)
    if quote == '\'' && c? == some '\'' && (← peekAt 1) == some '\'' then
      skipMany 2
      return .inl ('\'' :: text)
    if c? == some quote then return .inr (text, false)
    if quote == '"' && c? == some '\\' then
      let next ← peekAt 1
      if next.isSome && endsLine next then
        skip
        let _ ← lineBreak
        return .inr (text, true)
      return .inl ((← escapedCharacter start) :: text)
    skip
    return .inl (c?.toList ++ text)

def quotedScalar (quote : Char) : SourceM Token := do
  let start ← mark
  skip
  let text ← loop [] fun (text : List Char) => do
    if ← atDocumentSign then fail .documentInQuotes .quotedScalar start
    if (← peek).isNone then fail .endInQuotes .quotedScalar start
    let (text, broken) ← quotedWord quote start text
    if ← sees quote then return .inr text
    let gap ← readGap (pure ()) (if broken then { first := some [] } else {})
    return .inl (gap.folded.reverse ++ text)
  skip
  return ⟨.scalar text.reverse .quoted, start, ← mark⟩

/-! ## Block scalars -/

inductive Chomping where
  | strip | clip | keep
  deriving DecidableEq

def chompingSign : SourceM (Option Chomping) := do
  if ← sees '+' then
    skip
    return some .keep
  if ← sees '-' then
    skip
    return some .strip
  return none

/-- The digit that fixes the indentation; 0 if there is none. -/
def indentSign (start : Mark) : SourceM Nat := do
  match ← peek with
  | some c =>
    if !c.isDigit then return 0
    if c == '0' then fail .zeroIndent .blockScalar start
    skip
    return c.toNat - 48
  | none => return 0

/-- Line breaks and indentation before a line; an indentation of 0 is still to be found out. -/
def blockBreaks (start : Mark) (indent : Nat) : SourceM (Nat × List Char × Mark) := do
  let stop ← mark
  let (widest, breaks, stop) ← loop ((0, [], stop) : Nat × List Char × Mark)
      fun (widest, breaks, stop) => do
    let column := (← mark).column
    if indent == 0 then
      let _ ← run (· == ' ')
    else if column < indent then
      let blanks := ((← get).rest.take (indent - column)).takeWhile (· == ' ')
      skipMany blanks.length
    let column := (← mark).column
    let widest := max widest column
    if (indent == 0 || column < indent) && (← sees '\t') then
      fail .tabInIndent .blockScalar start
    let next ← peek
    if next.isNone || !endsLine next then return .inr (widest, breaks, stop)
    let b ← lineBreak
    return .inl (widest, breaks ++ b, ← mark)
  if indent != 0 then return (indent, breaks, stop)
  return (max widest (max ((← get).indent + 1).toNat 1), breaks, stop)

structure BlockState where
  /-- Newest first. -/
  text : List Char
  /-- The break at the end of the last line, and those after it. -/
  first : List Char
  more : List Char
  lastBlank : Bool
  indent : Nat
  stop : Mark

def blockScalar (literal : Bool) : SourceM Token := do
  let start ← mark
  skip
  let sign ← chompingSign
  let increment ← indentSign start
  let sign ← if sign.isNone && increment != 0 then chompingSign else pure sign
  skipBlanks
  skipComment
  if !endsLine (← peek) then fail .commentOrBreak .blockScalar start
  let _ ← lineBreak
  let base := (← get).indent
  let indent := if increment == 0 then 0 else if 0 ≤ base then base.toNat + increment else increment
  let (indent, breaks, stop) ← blockBreaks start indent
  let s ← loop (⟨[], [], breaks, false, indent, stop⟩ : BlockState) fun (s : BlockState) => do
    let c? ← peek
    if (← mark).column != s.indent || c?.isNone then return .inr s
    let blank := (c?.map isSpaceOrTab).getD false
    let folds := !literal && s.first == ['\n'] && !s.lastBlank && !blank
    let join := if folds then (if s.more.isEmpty then [' '] else []) else s.first
    let line ← run fun c => !isBreak c
    let text := line.reverse ++ ((join ++ s.more).reverse ++ s.text)
    let first ← lineBreak
    let (indent, more, stop) ← blockBreaks start s.indent
    return .inl ⟨text, first, more, blank, indent, stop⟩
  let tail := match sign.getD .clip with
    | .strip => []
    | .clip => s.first
    | .keep => s.first ++ s.more
  return ⟨.scalar (s.text.reverse ++ tail) .block, start, s.stop⟩

end PluginAudit.Yaml
