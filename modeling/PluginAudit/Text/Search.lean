/-!
# Searching in texts

A matcher looks at the start of a text, knowing the character before, and gives what it found
together with the rest of the text.
-/

namespace PluginAudit.Text

abbrev Matcher (α : Type) := Option Char → List Char → Option (α × List Char)

def after? (part text : List Char) : Option (List Char) :=
  if part.isPrefixOf text then some (text.drop part.length) else none

/-- The last character of `before ++ text` up to where `rest` begins. -/
def lastBefore (before : Option Char) (text rest : List Char) : Option Char :=
  ((text.take (text.length - rest.length)).getLast?).or before

/-- All matches from left to right, none within another; `n` bounds the steps. -/
def allMatches (m : Matcher α) : Nat → Option Char → List Char → List α
  | 0, _, _ => []
  | n + 1, before, text =>
    match m before text with
    | some (a, rest) => a :: allMatches m n (lastBefore before text rest) rest
    | none =>
      match text with
      | [] => []
      | c :: cs => allMatches m n (some c) cs

def matchesIn (m : Matcher α) (text : List Char) : List α :=
  allMatches m (text.length + 1) none text

/-- The rests of a text that begin a line, in order. -/
def lineRests : List Char → List (List Char)
  | [] => [[]]
  | text => text :: go text
where
  go : List Char → List (List Char)
    | [] => []
    | '\n' :: cs => cs :: go cs
    | _ :: cs => go cs

def upTo? (stop : Char) : List Char → Option (List Char × List Char)
  | [] => none
  | c :: cs =>
    if c == stop then some ([], cs)
    else (upTo? stop cs).map fun (taken, rest) => (c :: taken, rest)

end PluginAudit.Text
