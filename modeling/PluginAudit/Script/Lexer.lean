import PluginAudit.Script.Fault
import PluginAudit.Script.Token
import PluginAudit.Text.Bytes
import PluginAudit.Text.Characters

/-!
# The lexer

`Lexer.token` reads one token from the rest of a text. Faults are recorded and reading goes on;
a token the lexer refuses has kind `unknown`. Regular expressions and the text after a template
substitution are read on request of the grammar (`Lexer.regex`, `Lexer.templateRest`), since
only the grammar can tell them from operators and closing braces.
-/

namespace PluginAudit.Script

open Text

/-- The first comment of a text: where it begins, and whether it asks for Flow. -/
structure FirstComment where
  start : Nat
  flow : Bool
  deriving DecidableEq, Repr

structure Scan where
  rest : List Char
  offset : Nat
  /-- Newest first. -/
  faults : List FaultAt
  comment : Option FirstComment
  /-- More than the number of characters of the text. -/
  limit : Nat
  deriving Repr

def Scan.ofText (text : List Char) : Scan :=
  ⟨text, 0, [], none, text.length + 1⟩

namespace Lexer

abbrev ScanM := StateM Scan

def isLineEnd (c : Char) : Bool :=
  c == '\n' || c == '\r' || c.toNat == 0x2028 || c.toNat == 0x2029

def isSpace (c : Char) : Bool :=
  let n := c.toNat
  n == 9 || n == 11 || n == 12 || n == 32 || n == 0x85 || n == 0xA0 || n == 0x1680 ||
    (0x2000 ≤ n && n ≤ 0x200B) || n == 0x202F || n == 0x205F || n == 0x3000 || n == 0xFEFF

def peek : ScanM (Option Char) := return (← get).rest.head?

def offset : ScanM Nat := return (← get).offset

def limit : ScanM Nat := return (← get).limit

def looksAt (text : String) : ScanM Bool := return text.toList.isPrefixOf (← get).rest

def fault (f : Fault) (at_ : Nat) : ScanM Unit :=
  modify fun s => { s with faults := ⟨f, at_⟩ :: s.faults }

def next : ScanM (Option Char) := do
  let s ← get
  match s.rest with
  | [] => return none
  | c :: r =>
    set { s with rest := r, offset := s.offset + c.utf8Size }
    return some c

def skip : ScanM Unit := do
  let _ ← next

def skipMany : Nat → ScanM Unit
  | 0 => pure ()
  | n + 1 => do skip; skipMany n

def eat (c : Char) : ScanM Bool := do
  if (← peek) == some c then
    skip
    return true
  return false

def run (p : Char → Bool) : ScanM (List Char) := do
  let s ← get
  let taken := s.rest.takeWhile p
  set { s with rest := s.rest.dropWhile p, offset := s.offset + byteLength taken }
  return taken

def peekIs (p : Char → Bool) : ScanM Bool := return ((← peek).map p).getD false

/-! ## Comments and blanks -/

def mentionsFlow : List Char → Bool
  | [] => false
  | c :: r => "@flow".toList.isPrefixOf (c :: r) || mentionsFlow r

def noteComment (start : Nat) (text : List Char) : ScanM Unit :=
  modify fun s =>
    if s.comment.isSome then s else { s with comment := some ⟨start, mentionsFlow text⟩ }

def lineComment : ScanM Bool := do
  let start ← offset
  let text ← run fun c => !isLineEnd c
  noteComment start text
  if (← peek).isSome then
    skip
    return true
  return false

def blockBody? : List Char → Option (List Char)
  | [] => none
  | '*' :: '/' :: _ => some []
  | c :: r => (blockBody? r).map (c :: ·)

def blockComment : ScanM Bool := do
  let start ← offset
  let s ← get
  match blockBody? (s.rest.drop 2) with
  | some body =>
    skipMany (body.length + 4)
    noteComment start body
    return body.any isLineEnd
  | none =>
    let _ ← run fun _ => true
    fault .unterminatedComment start
    return false

/-- Skips blanks and comments; says whether a line ended. `newline` says whether one did before. -/
def blanks : Nat → Bool → ScanM Bool
  | 0, newline => pure newline
  | n + 1, newline => do
    match (← get).rest with
    | '/' :: '/' :: _ => do let e ← lineComment; blanks n (newline || e)
    | '/' :: '*' :: _ => do let e ← blockComment; blanks n (newline || e)
    | '<' :: '!' :: '-' :: '-' :: _ => do let e ← lineComment; blanks n (newline || e)
    | '-' :: '-' :: '>' :: _ =>
      if newline then do let e ← lineComment; blanks n (newline || e) else pure newline
    | c :: _ =>
      if isSpace c then do skip; blanks n newline
      else if isLineEnd c then do skip; blanks n true
      else pure newline
    | [] => pure newline

/-! ## Escapes -/

def hexDigit : ScanM (Option Nat) := do
  match (← peek).bind hexValue? with
  | some v => skip; return some v
  | none => return none

def hexDigits : Nat → Nat → ScanM (Option Nat)
  | 0, value => return some value
  | n + 1, value => do
    match ← hexDigit with
    | some d => hexDigits n (value * 16 + d)
    | none => return none

def codePoint : Nat → Nat → ScanM (Option Nat)
  | 0, value => return some value
  | n + 1, value => do
    match ← hexDigit with
    | none => return some value
    | some d =>
      let value := value * 16 + d
      if value > 0x10FFFF then return none else codePoint n value

/-- What a `\u` escape denotes. -/
inductive EscapedUnit where
  | point (n : Nat)
  | pair (n : Nat)
  | halves (high low : Nat)

def isHighHalf (n : Nat) : Bool := 0xD800 ≤ n && n ≤ 0xDBFF

def isLowHalf (n : Nat) : Bool := 0xDC00 ≤ n && n ≤ 0xDFFF

def unicodeEscape : ScanM (Option EscapedUnit) := do
  if ← eat '\x7b' then
    let some first ← hexDigit | return none
    let some value ← codePoint (← limit) first | return none
    if ← eat '\x7d' then return some (.point value)
    return none
  let some high ← hexDigits 4 0 | return none
  if !(isHighHalf high && (← looksAt "\\u")) then return some (.point high)
  skipMany 2
  let some low ← hexDigits 4 0 | return none
  if isLowHalf low then
    return some (.pair (0x10000 + (high - 0xD800) * 0x400 + (low - 0xDC00)))
  return some (.halves high low)

def isScalar (n : Nat) : Bool := n < 0xD800 || (0xE000 ≤ n && n ≤ 0x10FFFF)

/-! ## Names -/

def nameEscape (first : Bool) : ScanM (Option Char) := do
  let start ← offset
  if (← next) != some 'u' then
    fault .invalidNameEscape start
    return none
  match ← unicodeEscape with
  | some (.point n) =>
    if !isScalar n then
      fault .invalidNameEscape start
      return none
    let c := Char.ofNat n
    if (if first then isNameStart c else isNamePart c) then return some c
    fault (.strayCharacter c) (← offset)
    return none
  | _ =>
    fault .invalidNameEscape start
    return none

/-- The rest of a name; `value` holds what is read, newest first. -/
def nameRest : Nat → List Char → Bool → ScanM (List Char × Bool)
  | 0, value, escaped => return (value, escaped)
  | n + 1, value, escaped => do
    let part ← run isNamePart
    let value := part.reverse ++ value
    if ← eat '\\' then
      let c ← nameEscape (value.isEmpty && !escaped)
      nameRest n (c.toList ++ value) true
    else return (value, escaped)

def name : ScanM (String × Bool) := do
  let (value, escaped) ← nameRest (← limit) [] false
  return (String.ofList value.reverse, escaped)

/-! ## Numbers -/

def isBinaryDigit (c : Char) : Bool := c == '0' || c == '1'

def isOctalDigit (c : Char) : Bool := '0' ≤ c && c ≤ '7'

def isHexDigit (c : Char) : Bool := (hexValue? c).isSome

def stray : ScanM Unit := do
  match ← peek with
  | some c => fault (.strayCharacter c) (← offset)
  | none => fault .endOfText (← offset)

/-- Digits with separators after a first digit; says whether they are well formed. -/
def digitsAfterFirst (digit : Char → Bool) : Nat → ScanM Bool
  | 0 => return true
  | n + 1 => do
    let _ ← run digit
    if ← eat '_' then
      if ← peekIs digit then digitsAfterFirst digit n
      else
        stray
        return false
    else return true

def decimalsAfterFirst : ScanM Unit := do
  let _ ← digitsAfterFirst Char.isDigit (← limit)

def decimals : ScanM Unit := do
  if ← peekIs Char.isDigit then decimalsAfterFirst else stray

def exponent : ScanM Unit := do
  if (← peek) == some '-' || (← peek) == some '+' then skip
  decimals

def exponent? : ScanM Bool := do
  if (← peek) == some 'e' || (← peek) == some 'E' then
    skip
    exponent
    return true
  return false

/-- No letter or digit may follow a number directly. -/
def endOfNumber (form : NumberForm) : ScanM TokenKind := do
  let start ← offset
  if ← peekIs fun c => c.isDigit || isNameStart c then
    skip
    let _ ← run isNameStart
    fault .afterNumber start
    return .unknown
  return .number form

def fraction : ScanM TokenKind := do
  if ← peekIs Char.isDigit then decimalsAfterFirst
  let _ ← exponent?
  endOfNumber .float

def radixDigits (form : NumberForm) (digit : Char → Bool) : ScanM TokenKind := do
  skip
  if ← peekIs digit then
    if ← digitsAfterFirst digit (← limit) then
      let _ ← eat 'n'
      endOfNumber form
    else return .unknown
  else
    stray
    return .unknown

/-- Digits after a leading zero: octal unless an 8 or 9 is among them. -/
def zeroDigits : ScanM TokenKind := do
  let digits ← run Char.isDigit
  if digits.all isOctalDigit then endOfNumber .octal
  else if ← eat '.' then fraction
  else if ← eat 'e' then
    exponent
    return .number .float
  else endOfNumber .decimal

def afterZero : ScanM TokenKind := do
  match ← peek with
  | some c =>
    if c == 'b' || c == 'B' then radixDigits .binary isBinaryDigit
    else if c == 'o' || c == 'O' then radixDigits .octal isOctalDigit
    else if c == 'x' || c == 'X' then radixDigits .hex isHexDigit
    else if c == 'e' || c == 'E' then
      skip
      exponent
      return .number .float
    else if c == '.' then
      skip
      fraction
    else if c == 'n' then
      skip
      endOfNumber .decimal
    else if c.isDigit then zeroDigits
    else endOfNumber .decimal
  | none => endOfNumber .decimal

def number : ScanM TokenKind := do
  if ← eat '0' then afterZero
  else
    decimalsAfterFirst
    if ← eat '.' then fraction
    else if ← eat 'n' then endOfNumber .decimal
    else if ← exponent? then endOfNumber .float
    else endOfNumber .decimal

/-! ## Strings and templates -/

/-- Half of a surrogate pair stands for no character; it stays as written, without its zeros. -/
def writtenHalf (n : Nat) : List Char := '\\' :: 'u' :: Nat.toDigits 16 n

/-- An escape in a string or template after its backslash: its value, none if malformed. -/
def stringEscape (start : Nat) (inTemplate : Bool) : ScanM (Option (List Char)) := do
  match ← next with
  | none =>
    fault .unterminatedString start
    return some []
  | some c =>
    match c with
    | 'x' => do
      match ← hexDigits 2 0 with
      | some v => return some [Char.ofNat v]
      | none => return none
    | 'u' => do
      match ← unicodeEscape with
      | some (.point v) => return some (if isScalar v then [Char.ofNat v] else writtenHalf v)
      | some (.pair v) => return some [Char.ofNat v]
      | some (.halves high low) => return some (writtenHalf high ++ writtenHalf low)
      | none => return none
    | '\r' => do
      let _ ← eat '\n'
      return some []
    | _ =>
      if isLineEnd c then return some []
      else if c == '0' && !(← peekIs Char.isDigit) then return some ['\x00']
      else if c.isDigit && inTemplate then
        if c == '0' then skip
        return none
      else if isOctalDigit c then
        let first := c.toNat - 48
        let more ← if ← peekIs isOctalDigit then next else pure none
        match more with
        | none => return some [Char.ofNat first]
        | some d =>
          let value := first * 8 + (d.toNat - 48)
          let more ← if c ≤ '3' && (← peekIs isOctalDigit) then next else pure none
          match more with
          | none => return some [Char.ofNat value]
          | some e => return some [Char.ofNat (value * 8 + (e.toNat - 48))]
      else return some [match c with
        | 'b' => '\x08' | 'f' => '\x0c' | 'n' => '\n' | 'r' => '\r' | 't' => '\t'
        | 'v' => '\x0b' | c => c]

def stringRest (quote : Char) (start : Nat) : Nat → List Char → ScanM (TokenKind × List Char)
  | 0, value => return (.unknown, value)
  | n + 1, value => do
    let part ← run fun c => !(c == quote || c == '\\' || c == '\n' || c == '\r')
    let value := part.reverse ++ value
    let here ← offset
    match ← next with
    | none =>
      fault .unterminatedString start
      return (.unknown, value)
    | some c =>
      if c == quote then return (.string, value)
      else if c == '\\' then
        match ← stringEscape start false with
        | some cs => stringRest quote start n (cs.reverse ++ value)
        | none =>
          fault .invalidEscape here
          stringRest quote start n value
      else
        fault .unterminatedString start
        return (.unknown, value)

/-- Template text up to its end or next substitution: whether it is the last piece, and whether
its escapes are well formed; none if it has no end. -/
def templateText (start : Nat) : Nat → Bool → ScanM (Option (Bool × Bool))
  | 0, _ => return none
  | n + 1, wellFormed => do
    let _ ← run fun c => !(c == '$' || c == '`' || c == '\\')
    match ← next with
    | none =>
      fault .unterminatedString start
      return none
    | some '`' => return some (true, wellFormed)
    | some '$' =>
      if ← eat '\x7b' then return some (false, wellFormed) else templateText start n wellFormed
    | some _ =>
      let e ← stringEscape start true
      templateText start n (wellFormed && e.isSome)

/-! ## Tokens -/

/-- Signs, a longer one before its beginnings. `>` is read alone: the grammar joins it. -/
def signs : List String :=
  ["\x7b", "\x7d", "(", ")", "[", "]", ";", ",", "~", ":", "@", "=>", "===", "==", "=", "!==",
   "!=", "!", "+=", "++", "+", "-=", "--", "-", "**=", "**", "*=", "*", "%=", "%", "&&=", "&&",
   "&=", "&", "||=", "||", "|=", "|", "??=", "??", "?.", "?", "^=", "^", "<<=", "<<", "<=", "<",
   ">", "/=", "/", "...", "."]

def signAt? (text : List Char) : Option String :=
  signs.find? fun s =>
    s.toList.isPrefixOf text &&
      !(s == "?." && ((text.drop 2).head?.map Char.isDigit).getD false)

def finish (before : List Char) (start : Nat) (newline : Bool) (kind : TokenKind)
    (escaped : Bool) (value : Option String) : ScanM Token := do
  let s ← get
  let raw := before.take (before.length - s.rest.length)
  return ⟨kind, start, s.offset, raw, newline, escaped, value⟩

def templateKind (opening : Bool) : Option (Bool × Bool) → TokenKind
  | none => .unknown
  | some (true, _) => .template (if opening then .whole else .tail)
  | some (false, _) => .template (if opening then .head else .middle)

def templateValue : Option (Bool × Bool) → Option String
  | some (_, true) => some ""
  | _ => none

def hash (start : Nat) : ScanM TokenKind := do
  skip
  if ← pure (start == 0) <&&> eat '!' then
    let _ ← run fun c => !isLineEnd c
    return .hashbang
  match ← peek with
  | none =>
    fault .endOfText (← offset)
    return .unknown
  | some c =>
    if isNameStart c || c == '\\' then return .privateName
    fault (.strayCharacter c) (← offset)
    skip
    return .unknown

def token (newlineBefore : Bool) : ScanM Token := do
  let newline ← blanks (← limit) newlineBefore
  let s ← get
  let start := s.offset
  match s.rest with
  | [] => finish s.rest start newline .endOfText false none
  | c :: _ =>
    if isNameStart c || c == '\\' then
      let (value, escaped) ← name
      finish s.rest start newline (.ofName value) escaped (some value)
    else if c.isDigit then
      let kind ← number
      finish s.rest start newline kind false none
    else if c == '"' || c == '\'' then
      skip
      let (kind, value) ← stringRest c start (← limit) []
      finish s.rest start newline kind false (some (String.ofList value.reverse))
    else if c == '`' then
      skip
      let text ← templateText start (← limit) true
      finish s.rest start newline (templateKind true text) false (templateValue text)
    else if c == '#' then
      let kind ← hash start
      if kind == .privateName then
        let (value, escaped) ← name
        finish s.rest start newline .privateName escaped (some value)
      else finish s.rest start (newline || kind == .hashbang) kind false none
    else if c == '.' && ((s.rest.drop 1).head?.map Char.isDigit).getD false then
      skip
      decimals
      let _ ← exponent?
      let kind ← endOfNumber .float
      finish s.rest start newline kind false none
    else
      match signAt? s.rest with
      | some sign =>
        skipMany sign.length
        finish s.rest start newline (.sign sign) false none
      | none =>
        skip
        fault (.strayCharacter c) start
        finish s.rest start newline .unknown false none

/-- Joins the signs that begin with a `>` just read. -/
def afterAngle (angle : Token) : ScanM Token := do
  let s ← get
  let longer := [">>>=", ">>>", ">>=", ">>", ">="]
  match longer.find? fun l => (l.toList.drop 1).isPrefixOf s.rest with
  | none => return { angle with afterNewline := false }
  | some l =>
    skipMany (l.length - 1)
    return ⟨.sign l, angle.start, (← get).offset, l.toList, false, false, none⟩

/-- The template text after the brace that closes a substitution. -/
def templateRest (brace : Token) : ScanM Token := do
  let s ← get
  let text ← templateText brace.start (← limit) true
  let t ← finish s.rest brace.start false (templateKind false text) false (templateValue text)
  return { t with raw := '\x7d' :: t.raw }

/-- The body of a regular expression after its `/`: whether it is closed. -/
def regexBody : Nat → Bool → ScanM Bool
  | 0, _ => return false
  | n + 1, inClass => do
    match ← next with
    | none => return false
    | some c =>
      if isLineEnd c then return false
      else if c == '\\' then
        match ← next with
        | none => return false
        | some d => if isLineEnd d then return false else regexBody n inClass
      else if c == '/' && !inClass then return true
      else if c == '[' then regexBody n true
      else if c == ']' then regexBody n false
      else regexBody n inClass

def isFlagCharacter (c : Char) : Bool := c.isAlphanum || c == '$' || c == '_'

def regexFlags : Nat → List Char → ScanM Unit
  | 0, _ => pure ()
  | n + 1, seen => do
    match ← peek with
    | none => pure ()
    | some c =>
      if isFlagCharacter c then
        let here ← offset
        skip
        if !"gimsuydv".toList.contains c then
          fault (.unknownFlag c) here
          regexFlags n seen
        else if seen.contains c then
          fault (.repeatedFlag c) here
          regexFlags n seen
        else regexFlags n (c :: seen)

/-- A regular expression whose first `/` or `/=` was read as a sign. None if it has no end. -/
def regex (slash : Token) : ScanM (Option Token) := do
  let s ← get
  if !(← regexBody (← limit) false) then return none
  regexFlags (← limit) []
  let t ← finish s.rest slash.start false .regex false none
  return some { t with raw := slash.raw ++ t.raw }

end Lexer

end PluginAudit.Script
