import PluginAudit.Regex.Reader
import PluginAudit.Schema.Uri

/-!
# Formats of strings

The drafts of schemas, and the formats that a draft knows.
-/

namespace PluginAudit.Schema

open Text

inductive Draft where
  | four | six | seven | year2019 | year2020
  deriving DecidableEq, Repr

namespace Draft

def rank : Draft → Nat
  | four => 4
  | six => 6
  | seven => 7
  | year2019 => 8
  | year2020 => 9

def atLeast (d e : Draft) : Bool := e.rank ≤ d.rank

def uri : Draft → String
  | four => "http://json-schema.org/draft-04/schema"
  | six => "http://json-schema.org/draft-06/schema"
  | seven => "http://json-schema.org/draft-07/schema"
  | year2019 => "https://json-schema.org/draft/2019-09/schema"
  | year2020 => "https://json-schema.org/draft/2020-12/schema"

def all : List Draft := [four, six, seven, year2019, year2020]

def ofUri? (uri : String) : Option Draft := all.find? (·.uri == uri)

/-- Later drafts say that a format is only a remark. -/
def assertsFormats (d : Draft) : Bool := !d.atLeast year2019

end Draft

inductive Format where
  | date | dateTime | time | email | idnEmail | hostname | idnHostname | ipv4 | ipv6
  | uri | uriReference | iri | iriReference | uriTemplate | jsonPointer | relativePointer | regex
  deriving DecidableEq, Repr

namespace Format

def all : List Format :=
  [date, dateTime, time, email, idnEmail, hostname, idnHostname, ipv4, ipv6, uri, uriReference,
    iri, iriReference, uriTemplate, jsonPointer, relativePointer, regex]

def name : Format → String
  | date => "date"
  | dateTime => "date-time"
  | time => "time"
  | email => "email"
  | idnEmail => "idn-email"
  | hostname => "hostname"
  | idnHostname => "idn-hostname"
  | ipv4 => "ipv4"
  | ipv6 => "ipv6"
  | uri => "uri"
  | uriReference => "uri-reference"
  | iri => "iri"
  | iriReference => "iri-reference"
  | uriTemplate => "uri-template"
  | jsonPointer => "json-pointer"
  | relativePointer => "relative-json-pointer"
  | regex => "regex"

def since : Format → Draft
  | idnHostname => .seven
  | iri => .seven
  | iriReference => .seven
  | relativePointer => .seven
  | uriReference => .six
  | uriTemplate => .six
  | jsonPointer => .six
  | _ => .four

def find? (d : Draft) (text : String) : Option Format :=
  all.find? fun f => f.name == text && d.atLeast f.since

/-! ## Dates and times -/

def number? (digits : List Char) : Option Nat :=
  if digits.all Char.isDigit then
    some (digits.foldl (fun n d => n * 10 + (d.toNat - 48)) 0)
  else none

def isLeap (year : Nat) : Bool := year % 4 == 0 && (year % 100 != 0 || year % 400 == 0)

def daysIn (year month : Nat) : Nat :=
  if month == 2 then (if isLeap year then 29 else 28)
  else if [4, 6, 9, 11].contains month then 30
  else if 1 ≤ month && month ≤ 12 then 31
  else 0

def isDate (text : List Char) : Bool :=
  match text with
  | [a, b, c, d, '-', e, f, '-', g, h] =>
    match number? [a, b, c, d], number? [e, f], number? [g, h] with
    | some year, some month, some day => 1 ≤ day && day ≤ daysIn year month
    | _, _, _ => false
  | _ => false

/-- Minutes that local time is ahead of the common one. -/
def offset? (text : List Char) : Option Int :=
  match text with
  | ['Z'] => some 0
  | ['z'] => some 0
  | [sign, a, b, ':', c, d] =>
    match number? [a, b], number? [c, d] with
    | some h, some m =>
      if 23 < h || 59 < m then none
      else if sign == '+' then some (h * 60 + m : Nat)
      else if sign == '-' then some (-(h * 60 + m : Nat))
      else none
    | _, _ => none
  | _ => none

def isTime (text : List Char) : Bool :=
  match text with
  | a :: b :: ':' :: c :: d :: ':' :: e :: f :: rest =>
    let rest? := match rest with
      | '.' :: cs =>
        let digits := cs.takeWhile Char.isDigit
        if digits.isEmpty then none else some (cs.drop digits.length)
      | cs => some cs
    match number? [a, b], number? [c, d], number? [e, f], rest?.bind offset? with
    | some h, some m, some s, some offset =>
      h ≤ 23 && m ≤ 59 &&
        (s ≤ 59 || (s == 60 && Int.emod ((h * 60 + m : Nat) - offset) 1440 == 1439))
    | _, _, _, _ => false
  | _ => false

def isDateTime (text : List Char) : Bool :=
  let date := text.takeWhile fun c => c != 'T' && c != 't'
  isDate date && isTime (text.drop (date.length + 1))

/-! ## Hosts and addresses -/

def isLetterOrNumber (c : Char) : Bool :=
  if c.toNat < 128 then c.isAlphanum
  else Regex.letterRuns.any (·.contains c.toNat) || Regex.numberRuns.any (·.contains c.toNat)

def isHostname (text : List Char) : Bool :=
  !text.isEmpty && text.head? != some '-' && text.getLast? != some '-' && text.length ≤ 255 &&
    text.all (fun c => isLetterOrNumber c || c == '-' || c == '.') &&
    (Uri.splitOn '.' text).all fun label => label.length ≤ 63

def isAtomChar (c : Char) : Bool :=
  isLetterOrNumber c || 128 ≤ c.toNat ||
    ['!', '#', '$', '%', '&', '\'', '*', '+', '-', '/', '=', '?', '^', '_', '`', '\x7b', '|', '\x7d',
      '~'].contains c

def isAtom (text : List Char) : Bool := !text.isEmpty && text.all isAtomChar

def isQuotedChar (c : Char) : Bool :=
  c == ' ' || c == '\t' || ('!' ≤ c && c ≤ '~') || 128 ≤ c.toNat

def isQuotedText : List Char → Bool
  | [] => true
  | '\\' :: c :: rest => isQuotedChar c && isQuotedText rest
  | c :: rest => c != '\\' && c != '"' && isQuotedChar c && isQuotedText rest

def isMailbox (text : List Char) : Bool :=
  if text.isEmpty || 64 < (String.ofList text).utf8ByteSize then false
  else if text.head? == some '"' && text.getLast? == some '"' then
    2 < text.length && isQuotedText (text.drop 1).dropLast
  else (Uri.splitOn '.' text).all isAtom

def isMailDomain (text : List Char) : Bool :=
  if text.isEmpty || 254 < (String.ofList text).utf8ByteSize then false
  else if text.head? == some '[' && text.getLast? == some ']' then
    let inner := (text.drop 1).dropLast
    if "IPv6:".toList.isPrefixOf inner then Uri.isIpv6 (inner.drop 5) else Uri.isIpv4 inner
  else
    (Uri.splitOn '.' text).all (fun label =>
      isAtom label && (label.head?.map isLetterOrNumber).getD false &&
        (label.getLast?.map isLetterOrNumber).getD false && label.length ≤ 63) &&
      isHostname text

/-- An address without the name that may stand before it, as in `Name <address>`. -/
def bareAddress (text : List Char) : List Char :=
  if text.getLast? == some '>' then
    let before := text.takeWhile (· != '<')
    if before.length < text.length && before.getLast? == some ' ' && 1 < before.length then
      (text.drop (before.length + 1)).dropLast
    else text
  else text

/-- The parts before and after the last `@`. -/
def isEmail (text : List Char) : Bool :=
  let address := (bareAddress text).reverse
  let domain := address.takeWhile (· != '@')
  domain.length < address.length && isMailDomain domain.reverse &&
    isMailbox (address.drop (domain.length + 1)).reverse

/-! ## Pointers and templates -/

def pointerEscapes : List Char → Bool
  | [] => true
  | '~' :: '0' :: rest => pointerEscapes rest
  | '~' :: '1' :: rest => pointerEscapes rest
  | c :: rest => c != '~' && pointerEscapes rest

def isPointer (text : List Char) : Bool :=
  text.isEmpty || (text.head? == some '/' && pointerEscapes text)

def isRelativePointer (text : List Char) : Bool :=
  let digits := text.takeWhile Char.isDigit
  let rest := text.drop digits.length
  !digits.isEmpty && (digits.head? != some '0' || digits.length == 1) &&
    (rest == ['#'] || isPointer rest)

def isTemplateName (c : Char) : Bool := c.isAlphanum || c == '_' || c == '.'

/-- One variable of a template, with a length or `*` at its end. -/
def isTemplateVariable (text : List Char) : Bool :=
  let (name, limit) := Uri.cut ':' text
  let name := if limit.isNone && name.getLast? == some '*' then name.dropLast else name
  !name.isEmpty && Uri.allOrEscaped isTemplateName name &&
    match limit with
    | none => true
    | some ds => !ds.isEmpty && ds.length ≤ 4 && ds.all Char.isDigit && ds.head? != some '0'

def isExpression (text : List Char) : Bool :=
  let signs : List Char := ['+', '#', '.', '/', ';', '?', '&', '=', ',', '!', '@', '|']
  let text := if (text.head?.map signs.contains).getD false then text.drop 1 else text
  (Uri.splitOn ',' text).all isTemplateVariable

def isTemplateChar (c : Char) : Bool :=
  32 < c.toNat && !(['"', '\'', '<', '>', '\\', '^', '`', '|', '\x7d'].contains c)

def isTemplateWithin : Nat → List Char → Bool
  | 0, _ => false
  | _ + 1, [] => true
  | n + 1, '\x7b' :: rest =>
    match Uri.cut '\x7d' rest with
    | (e, some after) => isExpression e && isTemplateWithin n after
    | (_, none) => false
  | n + 1, '%' :: a :: b :: rest =>
    (hexValue? a).isSome && (hexValue? b).isSome && isTemplateWithin n rest
  | n + 1, c :: rest => c != '%' && isTemplateChar c && isTemplateWithin n rest

def isTemplate (text : List Char) : Bool := isTemplateWithin (text.length + 1) text

def fits (text : List Char) : Format → Bool
  | date => isDate text
  | dateTime => isDateTime text
  | time => isTime text
  | email => isEmail text
  | idnEmail => isEmail text
  | hostname => isHostname text
  | idnHostname => isHostname text
  | ipv4 => Uri.isIpv4 text
  | ipv6 => Uri.isIpv6 text
  | uri => Uri.isUri false text
  | uriReference => Uri.isReference false text
  | iri => Uri.isUri true text
  | iriReference => Uri.isReference true text
  | uriTemplate => isTemplate text
  | jsonPointer => isPointer text
  | relativePointer => isRelativePointer text
  | regex => (Regex.read? text).isSome

end Format

end PluginAudit.Schema
