import PluginAudit.Regex.Basic

/-!
# Reading regular expressions

`Regex.read?` reads the expressions of schemas. In them `\d`, `\s` and `\w` stand for few
characters; but an expression that looks ahead or behind is read with classes of all scripts.
-/

namespace PluginAudit.Regex

open Text

inductive Refusal where
  | invalid
  /-- A look ahead or behind, where none is wanted. -/
  | look
  deriving DecidableEq, Repr

structure Flags where
  anyCase : Bool := false
  /-- `.` stands for a line break too. -/
  dotAll : Bool := false
  /-- `^` and `$` stand at lines. -/
  lines : Bool := false
  /-- Blanks and comments do not count. -/
  loose : Bool := false

structure Reading where
  rest : List Char
  flags : Flags
  /-- Classes of all scripts, and looking ahead or behind. -/
  wide : Bool

abbrev ReadM := EStateM Refusal Reading

def invalid : ReadM α := throw .invalid

def peek : ReadM (Option Char) := return (← get).rest.head?

def skip : ReadM Unit := modify fun s => { s with rest := s.rest.drop 1 }

def next : ReadM Char := do
  match (← get).rest with
  | c :: cs =>
    modify fun s => { s with rest := cs }
    return c
  | [] => invalid

def tryTake (text : String) : ReadM Bool := do
  let s ← get
  if text.toList.isPrefixOf s.rest then
    set { s with rest := s.rest.drop text.length }
    return true
  return false

def takeTo (stop : Char) : ReadM (List Char) := do
  let s ← get
  let text := s.rest.takeWhile (· != stop)
  if text.length == s.rest.length then invalid
  set { s with rest := s.rest.drop (text.length + 1) }
  return text

def skipLoose : ReadM Unit := do
  let s ← get
  if s.flags.loose then set { s with rest := go (s.rest.length + 1) s.rest }
where
  go : Nat → List Char → List Char
    | 0, cs => cs
    | n + 1, cs =>
      match cs with
      | '#' :: cs => go n (cs.dropWhile (· != '\n'))
      | c :: cs => if isBlank c then go n cs else c :: cs
      | [] => []

/-! ## Escapes -/

inductive Escape where
  | char (c : Char)
  | set (s : Chars)
  | anchor (a : Anchor)

def hexNumber (digits : List Char) : ReadM Char := do
  if digits.isEmpty || digits.length > 8 then invalid
  match digits.mapM hexValue? with
  | none => invalid
  | some ds =>
    let n := ds.foldl (fun v d => v * 16 + d) 0
    if h : n.isValidChar then return Char.ofNatAux n h else invalid

/-- A character by its number, in braces or of a fixed number of digits. -/
def hexEscape (count : Nat) : ReadM Escape := do
  if ← tryTake "\x7b" then return .char (← hexNumber (← takeTo '\x7d'))
  let digits := (← get).rest.take count
  if digits.length != count then invalid
  modify fun s => { s with rest := s.rest.drop count }
  return .char (← hexNumber digits)

def afterEquals (name : List Char) : List Char :=
  match name.dropWhile fun c => c != '=' && c != ':' with
  | _ :: rest => rest
  | [] => name

def namedClass (negated : Bool) : ReadM Escape := do
  let name ← if ← tryTake "\x7b" then takeTo '\x7d' else pure [← next]
  let (name, negated) := match name with
    | '^' :: cs => (cs, !negated)
    | cs => (cs, negated)
  match property? (afterEquals name) with
  | some p => return .set (if negated then .compl (.property p) else .property p)
  | none => invalid

def narrowBlank : Chars :=
  .ofList [' ', '\t', '\n', '\r', '\x0b', '\x0c', '\u2003', '\ufeff', '\u00a0']

def narrowDigit : Chars := .range '0' '9'

def narrowWord : Chars :=
  .union (.union (.range 'A' 'Z') (.range 'a' 'z')) (.union narrowDigit (.single '_'))

def classLetter? (wide : Bool) (c : Char) : Option Chars :=
  match c with
  | 'd' => some (if wide then .digit else narrowDigit)
  | 's' => some (if wide then .blank else narrowBlank)
  | 'w' => some (if wide then .word else narrowWord)
  | 'D' => some (.compl (if wide then .digit else narrowDigit))
  | 'S' => some (.compl (if wide then .blank else narrowBlank))
  | 'W' => some (.compl (if wide then .word else narrowWord))
  | _ => none

def controlLetter? (c : Char) : Option Char :=
  match c with
  | 'f' => some '\x0c'
  | 't' => some '\t'
  | 'n' => some '\n'
  | 'r' => some '\r'
  | 'v' => some '\x0b'
  | _ => none

def anchorLetter? (c : Char) : Option Anchor :=
  match c with
  | 'A' => some .textStart
  | 'z' => some .textEnd
  | 'b' => some .wordEdge
  | 'B' => some .noWordEdge
  | _ => none

def isSign (c : Char) : Bool :=
  c.toNat < 128 && !c.isAlphanum && c != '<' && c != '>'

def escape : ReadM Escape := do
  let c ← next
  let wide := (← get).wide
  match classLetter? wide c, controlLetter? c, anchorLetter? c with
  | some s, _, _ => return .set s
  | _, some d, _ => return .char d
  | _, _, some a => return .anchor a
  | _, _, _ =>
    match c with
    | 'x' => hexEscape 2
    | 'u' => hexEscape 4
    | 'U' => hexEscape 8
    | 'p' => namedClass false
    | 'P' => namedClass true
    | 'c' =>
      let letter ← next
      if wide || !letter.isAlpha then invalid
      return .char (Char.ofNat (letter.toNat % 32))
    | c => if isSign c then return .char c else invalid

/-! ## Classes -/

def posixClass? (name : List Char) : Option Chars :=
  let upper := Chars.range 'A' 'Z'
  let lower := Chars.range 'a' 'z'
  let alpha := Chars.union upper lower
  let alnum := Chars.union alpha narrowDigit
  match String.ofList name with
  | "alnum" => some alnum
  | "alpha" => some alpha
  | "ascii" => some (.range '\x00' '\x7f')
  | "blank" => some (.ofList [' ', '\t'])
  | "cntrl" => some (.union (.range '\x00' '\x1f') (.single '\x7f'))
  | "digit" => some narrowDigit
  | "graph" => some (.range '!' '~')
  | "lower" => some lower
  | "print" => some (.range ' ' '~')
  | "punct" => some (.inter (.range '!' '~') (.compl alnum))
  | "space" => some (.ofList [' ', '\t', '\n', '\r', '\x0b', '\x0c'])
  | "upper" => some upper
  | "word" => some narrowWord
  | "xdigit" => some (.union narrowDigit (.union (.range 'A' 'F') (.range 'a' 'f')))
  | _ => none

/-- `[:name:]` without its first bracket, if one stands here. -/
def posixClass : ReadM (Option Chars) := do
  match (← get).rest with
  | ':' :: cs =>
    let (negated, cs) := match cs with
      | '^' :: cs => (true, cs)
      | cs => (false, cs)
    let name := cs.takeWhile (· != ':')
    match cs.dropWhile (· != ':'), posixClass? name with
    | ':' :: ']' :: rest, some s =>
      modify fun r => { r with rest := rest }
      return some (if negated then .compl s else s)
    | _, _ => return none
  | _ => return none

def classMember : ReadM Escape := do
  match ← next with
  | '\\' =>
    match ← escape with
    | .anchor _ => invalid
    | e => return e
  | c => return .char c

def classRange : ReadM Chars := do
  let first ← classMember
  skipLoose
  match (← get).rest, first with
  | '-' :: c :: _, first =>
    if c == ']' || c == '-' then return asSet first
    skip
    skipLoose
    match first, ← classMember with
    | .char low, .char high => if low ≤ high then return .range low high else invalid
    | _, _ => invalid
  | _, first => return asSet first
where
  asSet : Escape → Chars
    | .char c => .single c
    | .set s => s
    | .anchor _ => .none

inductive SetSign where
  | inter | minus | differ

def setSign : ReadM (Option SetSign) := do
  if ← tryTake "&&" then return some .inter
  if ← tryTake "--" then return some .minus
  if ← tryTake "~~" then return some .differ
  return none

def combine (sign : SetSign) (a b : Chars) : Chars :=
  match sign with
  | .inter => .inter a b
  | .minus => .inter a (.compl b)
  | .differ => .union (.inter a (.compl b)) (.inter b (.compl a))

def classStart : ReadM Chars := do
  let s ← get
  let dashes := s.rest.takeWhile (· == '-')
  let rest := s.rest.dropWhile (· == '-')
  let set := Chars.ofList dashes
  match dashes, rest with
  | [], ']' :: rest =>
    modify fun s => { s with rest := rest }
    return .single ']'
  | _, rest =>
    modify fun s => { s with rest := rest }
    return set

mutual

def classBody : Nat → ReadM Chars
  | 0 => invalid
  | n + 1 => do
    let negated ← tryTake "^"
    skipLoose
    let start ← classStart
    let s ← classRest n .none .union start
    return if negated then .compl s else s

/-- The rest of a class: what stands before the last set sign, how it is joined, and what has
been read after it. -/
def classRest : Nat → Chars → (Chars → Chars → Chars) → Chars → ReadM Chars
  | 0, _, _, _ => invalid
  | n + 1, before, join, read => do
    skipLoose
    match ← peek with
    | none => invalid
    | some ']' =>
      skip
      return join before read
    | some '[' =>
      skip
      let s ← match ← posixClass with
        | some s => pure s
        | none => classBody n
      classRest n before join (.union read s)
    | some _ =>
      match ← setSign with
      | some sign => classRest n (join before read) (combine sign) .none
      | none => classRest n before join (.union read (← classRange))

end

/-! ## Repetition -/

def decimal : ReadM (Option Nat) := do
  let s ← get
  let rest := s.rest.dropWhile isBlank
  let digits := rest.takeWhile Char.isDigit
  set { s with rest := (rest.drop digits.length).dropWhile isBlank }
  if digits.isEmpty then return none
  let n := digits.foldl (fun v d => v * 10 + (d.toNat - 48)) 0
  if n < Nat.pow 2 32 then return some n else invalid

def bounds : ReadM (Nat × Option Nat) := do
  let some least ← decimal | invalid
  if ← tryTake "\x7d" then return (least, some least)
  if !(← tryTake ",") then invalid
  let most ← decimal
  if !(← tryTake "\x7d") then invalid
  match most with
  | none => return (least, none)
  | some n => if n < least then invalid else return (least, some n)

def repetition? : ReadM (Option (Nat × Option Nat)) := do
  match ← peek with
  | some '*' =>
    skip
    return some (0, none)
  | some '+' =>
    skip
    return some (1, none)
  | some '?' =>
    skip
    return some (0, some 1)
  | some '\x7b' =>
    skip
    return some (← bounds)
  | _ => return none

/-- An expression with the repetitions after it; `?` after one changes nothing that counts. -/
def repetitions : Nat → Expr → ReadM Expr
  | 0, _ => invalid
  | n + 1, e => do
    skipLoose
    match ← repetition? with
    | none => return e
    | some (least, most) =>
      let _ ← tryTake "?"
      repetitions n (.repeated e least most)

/-! ## Expressions -/

def setFlag (on : Bool) (f : Flags) (c : Char) : Option Flags :=
  match c with
  | 'i' => some { f with anyCase := on }
  | 's' => some { f with dotAll := on }
  | 'm' => some { f with lines := on }
  | 'x' => some { f with loose := on }
  | 'U' => some f
  | 'u' => some f
  | 'R' => some f
  | _ => none

def readFlags (letters : List Char) (f : Flags) : Option Flags :=
  if letters.isEmpty || letters.getLast? == some '-' || letters.count '-' > 1 ||
      !letters.Nodup then none
  else
    let on := letters.takeWhile (· != '-')
    let off := letters.drop (on.length + 1)
    (on.foldlM (setFlag true) f).bind fun f => off.foldlM (setFlag false) f

def isGroupName (name : List Char) : Bool :=
  match name with
  | [] => false
  | c :: cs => (c.isAlpha || c == '_') &&
    cs.all fun c => c.isAlphanum || ['_', '.', '[', ']'].contains c

def charExpr (s : Chars) : ReadM Expr := return .chars s (← get).flags.anyCase

def lineAnchor (line text : Anchor) : ReadM Expr :=
  return .anchor (if (← get).flags.lines then line else text)

def dot : ReadM Expr := do
  if (← get).flags.dotAll then charExpr (.compl .none) else charExpr (.compl (.single '\n'))

def escapeExpr : ReadM Expr := do
  match ← escape with
  | .char c => charExpr (.single c)
  | .set s => charExpr s
  | .anchor a => return .anchor a

def look? : ReadM (Option (Bool × Bool)) := do
  if ← tryTake "?=" then return some (false, true)
  if ← tryTake "?!" then return some (false, false)
  if ← tryTake "?<=" then return some (true, true)
  if ← tryTake "?<!" then return some (true, false)
  return none

inductive Opening where
  | group
  | look (behind wanted : Bool)
  | flagsHere (f : Flags)
  | flagged (f : Flags)

def opening : ReadM Opening := do
  if let some (behind, wanted) ← look? then
    if !(← get).wide then throw .look
    return .look behind wanted
  if ← tryTake "?:" then return .group
  if ← tryTake "?P<" <||> tryTake "?<" then
    let name ← takeTo '>'
    if isGroupName name then return .group else invalid
  if !(← tryTake "?") then return .group
  let s ← get
  let letters := s.rest.takeWhile fun c => c != ':' && c != ')'
  match readFlags letters s.flags, s.rest.drop letters.length with
  | some f, ':' :: rest =>
    set { s with rest := rest }
    return .flagged f
  | some f, ')' :: rest =>
    set { s with rest := rest }
    return .flagsHere f
  | _, _ => invalid

def setFlags (f : Flags) : ReadM Unit := modify fun s => { s with flags := f }

mutual

/-- Expressions between bars; `n` bounds the steps. -/
def alternatives : Nat → ReadM Expr
  | 0 => invalid
  | n + 1 => do
    let a ← sequence n
    if ← tryTake "|" then return .alt a (← alternatives n)
    return a

def sequence : Nat → ReadM Expr
  | 0 => invalid
  | n + 1 => do
    skipLoose
    match ← peek with
    | none => return .empty
    | some '|' => return .empty
    | some ')' => return .empty
    | some '(' =>
      skip
      match ← opening with
      | .flagsHere f =>
        setFlags f
        sequence n
      | .group => continued n (← group n)
      | .flagged f =>
        let old := (← get).flags
        setFlags f
        let e ← group n
        setFlags old
        continued n e
      | .look behind wanted => continued n (.look behind wanted (← group n))
    | some '[' =>
      skip
      continued n (← charExpr (← classBody n))
    | some '\\' =>
      skip
      continued n (← escapeExpr)
    | some '.' =>
      skip
      continued n (← dot)
    | some '^' =>
      skip
      continued n (← lineAnchor .lineStart .textStart)
    | some '$' =>
      skip
      continued n (← lineAnchor .lineEnd .textEnd)
    | some c =>
      if ['*', '+', '?', '\x7b'].contains c then invalid
      skip
      continued n (← charExpr (.single c))

def continued : Nat → Expr → ReadM Expr
  | 0, _ => invalid
  | n + 1, e => do
    let e ← repetitions n e
    return .seq e (← sequence n)

/-- A group up to its closing bracket. Flags set inside end with it. -/
def group : Nat → ReadM Expr
  | 0 => invalid
  | n + 1 => do
    let flags := (← get).flags
    let e ← alternatives n
    if !(← tryTake ")") then invalid
    setFlags flags
    return e

end

def whole (bound : Nat) : ReadM Expr := do
  let e ← alternatives bound
  if (← get).rest.isEmpty then return e else invalid

def readAs (wide : Bool) (text : List Char) : Except Refusal Expr :=
  match whole (4 * text.length + 8) ⟨text, {}, wide⟩ with
  | .ok e _ => .ok e
  | .error r _ => .error r

def read? (text : List Char) : Option Expr :=
  match readAs false text with
  | .ok e => some e
  | .error .look => (readAs true text).toOption
  | .error .invalid => none

end PluginAudit.Regex
