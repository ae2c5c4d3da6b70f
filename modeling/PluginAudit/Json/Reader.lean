import PluginAudit.Document.Value
import PluginAudit.Text.Bytes
import PluginAudit.Text.Characters

/-!
# Reading JSON

`Json.read` reads one value. A fault is reported with its line and column, which counts bytes.
-/

namespace PluginAudit.Json

open Text Number

inductive Problem where
  | endInList | endInObject | endInString | endInValue
  | wantsColon | wantsCommaOrBracket | wantsCommaOrBrace
  | wantsWord | wantsValue | badEscape | badNumber | numberTooLarge
  | controlCharacter | wantsKey | loneSurrogate | trailingComma | trailingText | endInEscape
  | tooDeep
  deriving DecidableEq, Repr

def Problem.message : Problem → String
  | endInList => "EOF while parsing a list"
  | endInObject => "EOF while parsing an object"
  | endInString => "EOF while parsing a string"
  | endInValue => "EOF while parsing a value"
  | wantsColon => "expected `:`"
  | wantsCommaOrBracket => "expected `,` or `]`"
  | wantsCommaOrBrace => "expected `,` or `\x7d`"
  | wantsWord => "expected ident"
  | wantsValue => "expected value"
  | badEscape => "invalid escape"
  | badNumber => "invalid number"
  | numberTooLarge => "number out of range"
  | controlCharacter =>
    "control character (\\u0000-\\u001F) found while parsing a string"
  | wantsKey => "key must be a string"
  | loneSurrogate => "lone leading surrogate in hex escape"
  | trailingComma => "trailing comma"
  | trailingText => "trailing characters"
  | endInEscape => "unexpected end of hex escape"
  | tooDeep => "recursion limit exceeded"

structure ProblemAt where
  problem : Problem
  offset : Nat
  deriving DecidableEq, Repr

structure Cursor where
  rest : List Char
  offset : Nat
  deriving Repr

abbrev ReadM := EStateM ProblemAt Cursor

def peek : ReadM (Option Char) := return (← get).rest.head?

def skip : ReadM Unit := modify fun s =>
  match s.rest with
  | [] => s
  | c :: cs => ⟨cs, s.offset + c.utf8Size⟩

def failHere (p : Problem) : ReadM α := do throw ⟨p, (← get).offset⟩

/-- A problem with the current character: its first byte counts as read, if there is one. -/
def failAt (p : Problem) : ReadM α := do
  let s ← get
  throw ⟨p, if s.rest.isEmpty then s.offset else s.offset + 1⟩

def isSpace (c : Char) : Bool := c == ' ' || c == '\n' || c == '\t' || c == '\r'

def skipSpaces : ReadM (Option Char) := do
  modify fun s =>
    let taken := s.rest.takeWhile isSpace
    ⟨s.rest.dropWhile isSpace, s.offset + byteLength taken⟩
  peek

def word : List Char → ReadM Unit
  | [] => pure ()
  | w :: ws => do
    match ← peek with
    | none => failHere .endInValue
    | some c => if c == w then skip; word ws else failAt .wantsWord

/-! ## Strings -/

def fourDigits : ReadM Nat := do
  let s ← get
  match s.rest with
  | a :: b :: c :: d :: rest =>
    match hexValue? a, hexValue? b, hexValue? c, hexValue? d with
    | some i, some j, some k, some l =>
      set (⟨rest, s.offset + 4⟩ : Cursor)
      return ((i * 16 + j) * 16 + k) * 16 + l
    | _, _, _, _ => throw ⟨.badEscape, s.offset + 4⟩
  | few =>
    if byteLength few < 4 then throw ⟨.endInString, s.offset + byteLength few⟩
    else throw ⟨.badEscape, s.offset + 4⟩

def pairSign (wanted : Char) : ReadM Unit := do
  match ← peek with
  | none => failHere .endInString
  | some c => if c == wanted then skip else failAt .endInEscape

def numbered : ReadM Char := do
  let high ← fourDigits
  if 0xDC00 ≤ high && high ≤ 0xDFFF then failHere .loneSurrogate
  if high < 0xD800 || 0xDBFF < high then return Char.ofNat high
  pairSign '\\'
  pairSign 'u'
  let low ← fourDigits
  if low < 0xDC00 || 0xDFFF < low then failHere .loneSurrogate
  return Char.ofNat (0x10000 + (high - 0xD800) * 0x400 + (low - 0xDC00))

def escape : ReadM Char := do
  match ← peek with
  | none => failHere .endInString
  | some c =>
    match c with
    | '"' | '\\' | '/' => skip; return c
    | 'b' => skip; return '\x08'
    | 'f' => skip; return '\x0c'
    | 'n' => skip; return '\n'
    | 'r' => skip; return '\r'
    | 't' => skip; return '\t'
    | 'u' => skip; numbered
    | _ => failAt .badEscape

/-- A string after its opening quote; `done` holds what is read, newest first. -/
def stringRest : Nat → List Char → ReadM String
  | 0, _ => failHere .endInString
  | n + 1, done => do
    match ← peek with
    | none => failHere .endInString
    | some c =>
      if c == '"' then
        skip
        return String.ofList done.reverse
      else if c == '\\' then
        skip
        let d ← escape
        stringRest n (d :: done)
      else if c.toNat < 32 then failAt .controlCharacter
      else
        skip
        stringRest n (c :: done)

/-! ## Numbers -/

/-- Integers up to here are kept exactly while they are read. -/
def exactLimit : Nat := Nat.pow 2 64

def exponentLimit : Nat := Nat.pow 2 31

def powerOfTen (k : Nat) : Binary64 := (Binary64.ofDecimal? false 1 k).getD (.zero false)

/-- `x * 10 ^ k`, by steps that each give a number of the format. -/
def scale : Nat → Binary64 → Int → ReadM Binary64
  | 0, x, _ => return x
  | n + 1, x, k => do
    if k.natAbs ≤ 308 then
      let power := powerOfTen k.natAbs
      match if 0 ≤ k then x.mul? power else x.div? power with
      | some y => return y
      | none => failHere .numberTooLarge
    else if x.isZero then return x
    else if 0 ≤ k then failHere .numberTooLarge
    else scale n ((x.div? (powerOfTen 308)).getD (.zero false)) (k + 308)

def float (negative : Bool) (digits : Nat) (exponent : Int) : ReadM Numeral := do
  let x ← scale 5 (Binary64.ofInt digits) exponent
  return .float (if negative then x.negate else x)

def digits : ReadM (List Nat) := do
  let s ← get
  let taken := s.rest.takeWhile Char.isDigit
  set (⟨s.rest.dropWhile Char.isDigit, s.offset + taken.length⟩ : Cursor)
  return taken.map (·.toNat - 48)

/-- Adds digits to a number as long as it stays below a limit, and counts those left. -/
def gather (limit : Nat) : Nat → List Nat → Nat × List Nat
  | value, [] => (value, [])
  | value, d :: ds =>
    if value * 10 + d < limit then gather limit (value * 10 + d) ds else (value, d :: ds)

def exponent (negative : Bool) (value : Nat) (before : Int) : ReadM Numeral := do
  skip
  let sign ← peek
  if sign == some '-' || sign == some '+' then skip
  match ← peek with
  | none => failHere .endInValue
  | some c => if !c.isDigit then failAt .badNumber
  let s ← get
  let ds ← digits
  let after ← get
  let (e, rest) := gather exponentLimit 0 ds
  if rest.isEmpty then float negative value (if sign == some '-' then before - e else before + e)
  else if value != 0 && sign != some '-' then
    throw ⟨.numberTooLarge, s.offset + (ds.length - rest.length) + 1⟩
  else
    set after
    return .float (.zero negative)

def exponentOr (negative : Bool) (value : Nat) (e : Int) : ReadM Numeral := do
  match ← peek with
  | some 'e' => exponent negative value e
  | some 'E' => exponent negative value e
  | _ => float negative value e

/-- The fraction of a number; the point is the current character. Digits too many are ignored. -/
def fraction (negative : Bool) (value : Nat) (before : Int) : ReadM Numeral := do
  skip
  let ds ← digits
  if ds.isEmpty then
    match ← peek with
    | none => failHere .endInValue
    | some _ => failAt .badNumber
  let (all, rest) := gather exactLimit value ds
  exponentOr negative all (before - (ds.length - rest.length : Nat))

/-- What follows the whole part of a number, of which `left` digits are not in `value`. -/
def afterWhole (negative : Bool) (value left : Nat) : ReadM Numeral := do
  match ← peek with
  | some '.' => fraction negative value left
  | some 'e' => exponent negative value left
  | some 'E' => exponent negative value left
  | _ =>
    if left != 0 then float negative value left
    else if !negative then return .int value
    else if value == 0 || Nat.pow 2 63 < value then float true value 0
    else return .int (-value)

def number (negative : Bool) : ReadM Numeral := do
  match ← peek with
  | none => failHere .endInValue
  | some '0' =>
    skip
    match ← peek with
    | some c => if c.isDigit then failAt .badNumber else afterWhole negative 0 0
    | none => afterWhole negative 0 0
  | some c =>
    if c.isDigit then
      let ds ← digits
      let (value, rest) := gather exactLimit 0 ds
      afterWhole negative value rest.length
    else failAt .badNumber

/-! ## Values -/

/-- Values may nest less deep than this. -/
def depthLimit : Nat := 128

def keyOf (bound : Nat) : ReadM String := do
  skip
  let key ← stringRest bound []
  match ← skipSpaces with
  | some ':' => skip
  | some _ => failAt .wantsColon
  | none => failHere .endInObject
  return key

mutual

/-- A value inside `depthLimit - depth` others; `n` bounds the steps. -/
def value : Nat → Nat → ReadM Value
  | 0, _ => failHere .endInValue
  | n + 1, depth => do
    match ← skipSpaces with
    | none => failHere .endInValue
    | some 'n' =>
      skip
      word ['u', 'l', 'l']
      return .null
    | some 't' =>
      skip
      word ['r', 'u', 'e']
      return .bool true
    | some 'f' =>
      skip
      word ['a', 'l', 's', 'e']
      return .bool false
    | some '-' =>
      skip
      return .number (← number true)
    | some '"' =>
      skip
      return .string (← stringRest (n + 1) [])
    | some '[' =>
      if depth ≤ 1 then failAt .tooDeep
      skip
      items n (depth - 1) []
    | some '\x7b' =>
      if depth ≤ 1 then failAt .tooDeep
      skip
      members n (depth - 1) true []
    | some c => if c.isDigit then return .number (← number false) else failAt .wantsValue

def items : Nat → Nat → List Value → ReadM Value
  | 0, _, _ => failHere .endInList
  | n + 1, depth, done => do
    match ← skipSpaces with
    | none => failHere .endInList
    | some ']' =>
      skip
      return .array done.reverse
    | some c =>
      if !done.isEmpty then
        if c != ',' then failAt .wantsCommaOrBracket
        skip
        match ← skipSpaces with
        | none => failHere .endInValue
        | some ']' => failAt .trailingComma
        | some _ => pure ()
      let v ← value n depth
      items n depth (v :: done)

def members : Nat → Nat → Bool → List (String × Value) → ReadM Value
  | 0, _, _, _ => failHere .endInObject
  | n + 1, depth, first, done => do
    match ← skipSpaces with
    | none => failHere .endInObject
    | some '\x7d' =>
      skip
      return .object done
    | some c =>
      if !first then
        if c != ',' then failAt .wantsCommaOrBrace
        skip
      match ← skipSpaces with
      | none => failHere .endInValue
      | some '"' =>
        let key ← keyOf (n + 1)
        let v ← value n depth
        members n depth false (Value.insert key v done)
      | some '\x7d' => failAt .trailingComma
      | some _ => failAt .wantsKey

end

def document (bound : Nat) : ReadM Value := do
  let v ← value bound depthLimit
  match ← skipSpaces with
  | none => return v
  | some _ => failAt .trailingText

/-- Line and column after a number of bytes; the column counts bytes. -/
def lineAndColumn : List Char → Nat → Nat → Nat → Nat × Nat
  | [], offset, line, column => (line, column + offset)
  | c :: cs, offset, line, column =>
    if offset < c.utf8Size then (line, column + offset)
    else if c == '\n' then lineAndColumn cs (offset - 1) (line + 1) 0
    else lineAndColumn cs (offset - c.utf8Size) line (column + c.utf8Size)

structure ReadError where
  problem : Problem
  line : Nat
  column : Nat
  deriving DecidableEq, Repr

def ReadError.message (e : ReadError) : String :=
  e.problem.message ++ " at line " ++ toString e.line ++ " column " ++ toString e.column

def read (text : List Char) : Except ReadError Value :=
  match document (2 * text.length + 4) ⟨text, 0⟩ with
  | .ok v _ => .ok v
  | .error p _ =>
    let (line, column) := lineAndColumn text p.offset 1 0
    .error ⟨p.problem, line, column⟩

end PluginAudit.Json
