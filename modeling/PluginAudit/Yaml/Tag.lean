import PluginAudit.Yaml.Token

/-!
# Reading directives, anchors and tags
-/

namespace PluginAudit.Yaml

open SourceM Text

/-! ## Tags -/

/-- The length of the UTF-8 form of a character, told by its first byte. -/
def sequenceLength? (byte : Nat) : Option Nat :=
  if byte < 0x80 then some 1
  else if byte < 0xC0 then none
  else if byte < 0xE0 then some 2
  else if byte < 0xF0 then some 3
  else if byte < 0xF8 then some 4
  else none

/-- A byte written as `%XX`. -/
def uriByte (task : Task) (start : Mark) : SourceM Nat := do
  match (← get).rest with
  | '%' :: a :: b :: _ =>
    match hexValue? a, hexValue? b with
    | some i, some j => return i * 16 + j
    | _, _ => fail .badUriEscape task start
  | _ => fail .badUriEscape task start

/-- One character written as escaped bytes, each byte as a character. -/
def uriEscape (task : Task) (start : Mark) : SourceM (List Char) := do
  let first ← uriByte task start
  let some n := sequenceLength? first | fail .badUriHead task start
  skipMany 3
  loop ((n - 1, [Char.ofNat first]) : Nat × List Char) fun (left, bytes) => do
    if left == 0 then return .inr bytes.reverse
    let byte ← uriByte task start
    if byte < 0x80 || 0xBF < byte then fail .badUriTail task start
    skipMany 3
    return .inl (left - 1, Char.ofNat byte :: bytes)

def uriSigns : List Char :=
  [';', '/', '?', ':', '@', '&', '=', '+', '$', '.', '%', '!', '~', '*', '\'', '(', ')']

/-- Signs that only a tag in brackets may hold. -/
def bracketedSigns : List Char := [',', '[', ']']

/-- The characters of a tag after `head`, the first of which is left out. -/
def uri (bracketed : Bool) (task : Task) (head : List Char) (start : Mark) :
    SourceM (List Char) := do
  let text ← loop [] fun (text : List Char) => do
    let some c ← peek | return .inr text
    if !(isAlpha c || uriSigns.contains c || (bracketed && bracketedSigns.contains c)) then
      return .inr text
    if c == '%' then return .inl ((← uriEscape task start).reverse ++ text)
    skip
    return .inl (c :: text)
  if head.isEmpty && text.isEmpty then fail .emptyTag task start
  return head.drop 1 ++ text.reverse

/-- `!`, `!name` or `!name!`. -/
def tagHandle (directive : Bool) (start : Mark) : SourceM (List Char) := do
  if !(← sees '!') then fail .missingBang (if directive then .tagDirective else .tag) start
  skip
  let name ← run isAlpha
  if ← sees '!' then
    skip
    return '!' :: name ++ ['!']
  if directive && !name.isEmpty then fail .missingBang .handleDirective start
  return '!' :: name

def tagParts (start : Mark) : SourceM (List Char × List Char) := do
  if ← seesAt 1 '<' then
    skipMany 2
    let suffix ← uri true .uri [] start
    if !(← sees '>') then fail .unclosedTag .tag start
    skip
    return ([], suffix)
  let handle ← tagHandle false start
  if handle.length > 1 && handle.getLast? == some '!' then
    return (handle, ← uri false .uri [] start)
  let suffix ← uri false .uri handle start
  return if suffix.isEmpty then ([], ['!']) else (['!'], suffix)

def tagToken : SourceM Token := do
  let start ← mark
  let (handle, suffix) ← tagParts start
  let flowEnd ← if ← inFlow then sees ',' else pure false
  if !flowEnd && !endsWord (← peek) then fail .spaceOrBreak .tag start
  return ⟨.tag handle suffix, start, ← mark⟩

/-! ## Anchors -/

def afterAnchor (c? : Option Char) : Bool :=
  endsWord c? ||
    (c?.map ['?', ':', ',', ']', '\x7d', '%', '@', '`'].contains).getD false

/-- `&name` or `*name`. -/
def anchorToken (isAlias : Bool) : SourceM Token := do
  let start ← mark
  skip
  let name ← run isAlpha
  let stop ← mark
  if name.isEmpty || !afterAnchor (← peek) then
    fail .badAnchor (if isAlias then .aliasName else .anchor) start
  return ⟨if isAlias then .aliasName name else .anchor name, start, stop⟩

/-! ## Directives -/

def versionNumber (start : Mark) : SourceM Nat := do
  let digits := (← get).rest.takeWhile Char.isDigit
  if digits.length > 9 then
    skipMany 9
    fail .longVersion .versionDirective start
  skipMany digits.length
  if digits.isEmpty then fail .missingVersion .versionDirective start
  return digits.foldl (fun v d => v * 10 + (d.toNat - 48)) 0

def versionValue (start : Mark) : SourceM TokenKind := do
  skipBlanks
  let major ← versionNumber start
  if !(← sees '.') then fail .badVersion .versionDirective start
  skip
  return .versionDirective major (← versionNumber start)

def tagValue (start : Mark) : SourceM TokenKind := do
  skipBlanks
  let handle ← tagHandle true start
  if !((← peek).map isSpaceOrTab).getD false then fail .directiveSpace .tagDirective start
  skipBlanks
  let text ← uri true .uriDirective [] start
  if !endsWord (← peek) then fail .spaceOrBreak .tagDirective start
  return .tagDirective handle text

def directiveToken : SourceM Token := do
  let start ← mark
  skip
  let name ← run isAlpha
  if name.isEmpty then fail .emptyDirective .directive start
  if !endsWord (← peek) then fail .badDirectiveName .directive start
  let kind ← if name == "YAML".toList then versionValue start
    else if name == "TAG".toList then tagValue start
    else fail .unknownDirective .directive start
  let stop ← mark
  skipBlanks
  skipComment
  if !endsLine (← peek) then fail .directiveEnd .directive start
  let _ ← lineBreak
  return ⟨kind, start, stop⟩

end PluginAudit.Yaml
