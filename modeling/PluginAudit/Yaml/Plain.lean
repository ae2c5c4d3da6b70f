import PluginAudit.Document.Value
import PluginAudit.Text.Characters

/-!
# What plain scalars stand for

A scalar without quotes may be null, a truth value, an integer or a number; else it is a string.
-/

namespace PluginAudit.Yaml

open Text Number

def isNull (text : List Char) : Bool :=
  ["null".toList, "Null".toList, "NULL".toList, ['~']].contains text

def boolean? (text : List Char) : Option Bool :=
  if ["true".toList, "True".toList, "TRUE".toList].contains text then some true
  else if ["false".toList, "False".toList, "FALSE".toList].contains text then some false
  else none

/-! ## Integers -/

/-- The value of some digits in a base up to 16; none if there is no digit or another character. -/
def digitsValue? (base : Nat) (text : List Char) : Option Nat :=
  if text.isEmpty then none
  else text.foldlM (fun v c => (hexValue? c).bind fun d =>
    if d < base then some (v * base + d) else none) 0

def isSign (c : Char) : Bool := c == '+' || c == '-'

def withoutSign (text : List Char) : List Char :=
  match text with
  | c :: cs => if isSign c then cs else c :: cs
  | [] => []

/-- Digits that begin with a needless zero are no number. -/
def hasNeedlessZero (text : List Char) : Bool :=
  match withoutSign text with
  | '0' :: cs => !cs.isEmpty && cs.all Char.isDigit
  | _ => false

def magnitude? (text : List Char) : Option Nat :=
  match text with
  | '0' :: 'x' :: ds => digitsValue? 16 ds
  | '0' :: 'o' :: ds => digitsValue? 8 ds
  | '0' :: 'b' :: ds => digitsValue? 2 ds
  | ds => if hasNeedlessZero ds then none else digitsValue? 10 ds

def integer? (text : List Char) : Option Int :=
  match text with
  | '-' :: cs => (magnitude? cs).bind fun n => if n ≤ Nat.pow 2 127 then some (-n) else none
  | '+' :: cs => natural? cs
  | cs => natural? cs
where
  natural? (cs : List Char) : Option Int :=
    (magnitude? cs).bind fun n => if n < Nat.pow 2 128 then some n else none

def fits (i : Int) : Bool := -Nat.pow 2 63 ≤ i && i < Nat.pow 2 64

/-! ## Numbers -/

def exponent? (text : List Char) : Option Int :=
  match text with
  | '-' :: ds => (digitsValue? 10 ds).map fun n => -n
  | '+' :: ds => (digitsValue? 10 ds).map Int.ofNat
  | ds => (digitsValue? 10 ds).map Int.ofNat

/-- A decimal number without its sign: its digits and the exponent of the last. -/
def decimal? (text : List Char) : Option (Nat × Int) := do
  let whole := text.takeWhile Char.isDigit
  let rest := text.dropWhile Char.isDigit
  let (part, rest) := match rest with
    | '.' :: cs => (cs.takeWhile Char.isDigit, cs.dropWhile Char.isDigit)
    | cs => ([], cs)
  let digits ← digitsValue? 10 (whole ++ part)
  match rest with
  | [] => return (digits, -part.length)
  | c :: cs =>
    if c != 'e' && c != 'E' then none
    let e ← exponent? cs
    return (digits, e - part.length)

def isInfinity (text : List Char) : Bool :=
  [".inf".toList, ".Inf".toList, ".INF".toList].contains text

def isNaN (text : List Char) : Bool :=
  [".nan".toList, ".NaN".toList, ".NAN".toList].contains text

def finite? (negative : Bool) (text : List Char) : Option Value := do
  let (digits, e) ← decimal? text
  let x ← Binary64.ofDecimal? negative digits e
  return .number (.float x)

/-- A number; what is not finite is null. -/
def float? (text : List Char) : Option Value :=
  if isNaN text then some .null
  else
    match text with
    | '-' :: cs => if isInfinity cs then some .null else finite? true cs
    | '+' :: cs => if isInfinity cs then some .null else finite? false cs
    | cs => if isInfinity cs then some .null else finite? false cs

/-! ## Plain scalars -/

def string (text : List Char) : Value := .string (String.ofList text)

/-- An integer, unless it is too large. -/
def integerValue? (i : Int) : Option Value := if fits i then some (.number (.int i)) else none

/-- What a plain scalar stands for; none for an integer that is too large. -/
def plainValue? (text : List Char) : Option Value :=
  if text.isEmpty || isNull text then some .null
  else
    match boolean? text, integer? text with
    | some b, _ => some (.bool b)
    | none, some i => integerValue? i
    | none, none =>
      if hasNeedlessZero text then some (string text)
      else some ((float? text).getD (string text))

end PluginAudit.Yaml
