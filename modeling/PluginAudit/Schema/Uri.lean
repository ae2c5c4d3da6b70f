import PluginAudit.Text.Characters

/-!
# Identifiers of resources

An identifier is split into its parts, which may be joined to a base. `isUri` and the tests
beside it say which texts are well formed.
-/

namespace PluginAudit.Schema

open Text

structure Uri where
  scheme : Option (List Char)
  authority : Option (List Char)
  path : List Char
  query : Option (List Char)
  fragment : Option (List Char)
  deriving DecidableEq, Repr

namespace Uri

/-- The part before a sign, and the part after it if the sign is there. -/
def cut (sign : Char) (text : List Char) : List Char × Option (List Char) :=
  let first := text.takeWhile (· != sign)
  (first, if first.length == text.length then none else some (text.drop (first.length + 1)))

def isSchemeChar (c : Char) : Bool := c.isAlphanum || c == '+' || c == '-' || c == '.'

def isScheme (text : List Char) : Bool :=
  (text.head?.map Char.isAlpha).getD false && text.all isSchemeChar

def ofText (text : List Char) : Uri :=
  let (rest, fragment) := cut '#' text
  let (rest, query) := cut '?' rest
  let (scheme, rest) := match cut ':' rest with
    | (s, some after) => if isScheme s then (some s, after) else (none, rest)
    | (_, none) => (none, rest)
  match rest with
  | '/' :: '/' :: after =>
    let authority := after.takeWhile (· != '/')
    ⟨scheme, some authority, after.drop authority.length, query, fragment⟩
  | path => ⟨scheme, none, path, query, fragment⟩

def part (lead : List Char) (p : Option (List Char)) : List Char :=
  match p with
  | some text => lead ++ text
  | none => []

def text (u : Uri) : List Char :=
  (match u.scheme with
    | some s => s ++ [':']
    | none => []) ++
  part ['/', '/'] u.authority ++ u.path ++ part ['?'] u.query ++ part ['#'] u.fragment

/-! ## Joining -/

def segments : List Char → List (List Char)
  | [] => [[]]
  | c :: cs =>
    match c == '/', segments cs with
    | true, ss => [] :: ss
    | false, s :: ss => (c :: s) :: ss
    | false, [] => [[c]]

def joined (ss : List (List Char)) : List Char := (['/'] : List Char).intercalate ss

/-- Takes `.` and `..` out of segments; `done` holds those before, the last first. -/
def plainSegments (done : List (List Char)) : List (List Char) → List (List Char)
  | [] => done.reverse
  | [['.']] => (([] : List Char) :: done).reverse
  | [['.', '.']] => (([] : List Char) :: done.drop 1).reverse
  | ['.'] :: ss => plainSegments done ss
  | ['.', '.'] :: ss => plainSegments (done.drop 1) ss
  | s :: ss => plainSegments (s :: done) ss

def plainPath (path : List Char) : List Char :=
  match path with
  | '/' :: rest => '/' :: joined (plainSegments [] (segments rest))
  | rest => joined (plainSegments [] (segments rest))

def mergedPath (base : Uri) (path : List Char) : List Char :=
  if base.authority.isSome && base.path.isEmpty then '/' :: path
  else joined ((segments base.path).dropLast ++ [path])

def resolve (base reference : Uri) : Uri :=
  if reference.scheme.isSome then { reference with path := plainPath reference.path }
  else if reference.authority.isSome then
    { reference with scheme := base.scheme, path := plainPath reference.path }
  else if reference.path.isEmpty then
    { base with query := reference.query.or base.query, fragment := reference.fragment }
  else
    let path := if reference.path.head? == some '/' then reference.path
      else mergedPath base reference.path
    { base with path := plainPath path, query := reference.query, fragment := reference.fragment }

/-! ## Well-formed identifiers -/

def isUnreserved (c : Char) : Bool :=
  c.isAlphanum || c == '-' || c == '.' || c == '_' || c == '~'

def isSubDelimiter (c : Char) : Bool :=
  ['!', '$', '&', '\'', '(', ')', '*', '+', ',', ';', '='].contains c

/-- Characters beyond ASCII that an international identifier may hold. -/
def isForeign (c : Char) : Bool :=
  let n := c.toNat
  (0xA0 ≤ n && n ≤ 0xD7FF) || (0xF900 ≤ n && n ≤ 0xFDCF) || (0xFDF0 ≤ n && n ≤ 0xFFEF) ||
    (0x10000 ≤ n && n ≤ 0xEFFFD && n % 0x10000 < 0xFFFE)

/-- Each character is of a class, or a byte written as `%XX`. -/
def allOrEscaped (p : Char → Bool) : List Char → Bool
  | [] => true
  | '%' :: a :: b :: rest =>
    (hexValue? a).isSome && (hexValue? b).isSome && allOrEscaped p rest
  | c :: rest => c != '%' && p c && allOrEscaped p rest

def isNameChar (international : Bool) (c : Char) : Bool :=
  isUnreserved c || isSubDelimiter c || (international && isForeign c)

def isPathChar (international : Bool) (c : Char) : Bool :=
  isNameChar international c || c == ':' || c == '@'

def isQueryChar (international : Bool) (c : Char) : Bool :=
  isPathChar international c || c == '/' || c == '?'

def isByteText (text : List Char) : Bool :=
  match text with
  | [] => false
  | ['0'] => true
  | '0' :: _ => false
  | ds => ds.length ≤ 3 && ds.all Char.isDigit &&
    ds.foldl (fun n d => n * 10 + (d.toNat - 48)) 0 < 256

def splitOn (sign : Char) : List Char → List (List Char)
  | [] => [[]]
  | c :: cs =>
    match c == sign, splitOn sign cs with
    | true, ss => [] :: ss
    | false, s :: ss => (c :: s) :: ss
    | false, [] => [[c]]

def isIpv4 (text : List Char) : Bool :=
  let parts := splitOn '.' text
  parts.length == 4 && parts.all isByteText

def isGroup16 (text : List Char) : Bool :=
  1 ≤ text.length && text.length ≤ 4 && text.all fun c => (hexValue? c).isSome

/-- The number of groups of 16 bits in a part of an address; only the last may be in dots. -/
def groups16? (last : Bool) (text : List Char) : Option Nat :=
  if text.isEmpty then some 0
  else
    let parts := splitOn ':' text
    let (before, final) := (parts.dropLast, parts.getLast?.getD [])
    if !before.all isGroup16 then none
    else if isGroup16 final then some parts.length
    else if last && isIpv4 final then some (parts.length + 1)
    else none

def cutDouble : List Char → List Char × Option (List Char)
  | ':' :: ':' :: rest => ([], some rest)
  | c :: cs =>
    let (first, rest) := cutDouble cs
    (c :: first, rest)
  | [] => ([], none)

def isIpv6 (text : List Char) : Bool :=
  match cutDouble text with
  | (all, none) => groups16? true all == some 8
  | (first, some rest) =>
    match groups16? false first, groups16? true rest with
    | some m, some n => m + n ≤ 7
    | _, _ => false

def isHost (international : Bool) (host : List Char) : Bool :=
  match host with
  | '[' :: rest =>
    rest.getLast? == some ']' && isIpv6 rest.dropLast
  | name => allOrEscaped (isNameChar international) name

def isAuthority (international : Bool) (text : List Char) : Bool :=
  let (user, after) := cut '@' text
  let (user, place) := match after with
    | some place => (user, place)
    | none => ([], text)
  let (host, port) := match place with
    | '[' :: _ =>
      let host := place.takeWhile (· != ']') ++ [']']
      (host, place.drop host.length)
    | _ =>
      let host := place.takeWhile (· != ':')
      (host, place.drop host.length)
  allOrEscaped (fun c => isNameChar international c || c == ':') user &&
    isHost international host &&
    (port.isEmpty || (port.head? == some ':' && (port.drop 1).all Char.isDigit))

/-- A first segment with a colon would be read as a scheme. -/
def isPath (international relative : Bool) (path : List Char) : Bool :=
  allOrEscaped (fun c => isPathChar international c || c == '/') path &&
    !(relative && (path.takeWhile (· != '/')).contains ':')

def isWellFormed (international : Bool) (u : Uri) : Bool :=
  (match u.authority with
    | some a => isAuthority international a
    | none => true) &&
  isPath international (u.scheme.isNone && u.authority.isNone) u.path &&
  (u.query.map (allOrEscaped (isQueryChar international))).getD true &&
  (u.fragment.map (allOrEscaped (isQueryChar international))).getD true

def isReference (international : Bool) (text : List Char) : Bool :=
  (ofText text).isWellFormed international

def isUri (international : Bool) (text : List Char) : Bool :=
  (ofText text).scheme.isSome && isReference international text

end Uri

end PluginAudit.Schema
