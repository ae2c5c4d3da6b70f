import PluginAudit.Regex.Category
import PluginAudit.Text.Characters

/-!
# Regular expressions

What an expression matches is told by `ends`: the places at which a match from a given place can
end. All of them are kept together, so none is looked at twice.
-/

namespace PluginAudit.Regex

open Text

inductive Chars where
  | range (low high : Char)
  | property (p : Property)
  | word | blank | digit
  | union (a b : Chars)
  | inter (a b : Chars)
  | compl (a : Chars)

namespace Chars

def swapCase (c : Char) : Char :=
  if c.isUpper then c.toLower else if c.isLower then c.toUpper else c

/-- A test without regard to the case of ASCII letters, if `anyCase`. -/
def inCase (anyCase : Bool) (test : Char → Bool) (c : Char) : Bool :=
  test c || (anyCase && test (swapCase c))

def contains (anyCase : Bool) (c : Char) : Chars → Bool
  | range low high => inCase anyCase (fun c => low ≤ c && c ≤ high) c
  | property p => inCase anyCase p.contains c
  | word => isWord c
  | blank => isBlank c
  | digit => isDigitOfAnyScript c
  | union a b => a.contains anyCase c || b.contains anyCase c
  | inter a b => a.contains anyCase c && b.contains anyCase c
  | compl a => !a.contains anyCase c

def none : Chars := inter (range 'a' 'a') (range 'b' 'b')

def single (c : Char) : Chars := range c c

def ofList (cs : List Char) : Chars := cs.foldl (fun s c => union s (single c)) none

@[simp] theorem contains_compl (anyCase : Bool) (c : Char) (a : Chars) :
    (compl a).contains anyCase c = !a.contains anyCase c := rfl

@[simp] theorem contains_union (anyCase : Bool) (c : Char) (a b : Chars) :
    (union a b).contains anyCase c = (a.contains anyCase c || b.contains anyCase c) := rfl

end Chars

inductive Anchor where
  | textStart | textEnd | lineStart | lineEnd | wordEdge | noWordEdge
  deriving DecidableEq, Repr

inductive Expr where
  | empty
  /-- One character; `anyCase` compares ASCII letters without regard to case. -/
  | chars (s : Chars) (anyCase : Bool)
  | anchor (a : Anchor)
  | seq (a b : Expr)
  | alt (a b : Expr)
  | repeated (a : Expr) (least : Nat) (most : Option Nat)
  /-- A match of `a` does or does not begin (or end, if behind) here. -/
  | look (behind wanted : Bool) (a : Expr)

namespace Expr

def isWordAt (text : Array Char) (i : Nat) : Bool := (text[i]?.map isWord).getD false

/-- The place just after a place is that of the character before it. -/
def isWordBefore (text : Array Char) (i : Nat) : Bool := i != 0 && isWordAt text (i - 1)

def holds (text : Array Char) (i : Nat) : Anchor → Bool
  | .textStart => i == 0
  | .textEnd => i == text.size
  | .lineStart => i == 0 || text[i - 1]? == some '\n'
  | .lineEnd => i == text.size || text[i]? == some '\n'
  | .wordEdge => isWordBefore text i != isWordAt text i
  | .noWordEdge => isWordBefore text i == isWordAt text i

/-- The places reached from some places by one step, each once. -/
def stepAll (step : Nat → List Nat) (places : List Nat) : List Nat :=
  (places.flatMap step).eraseDups

/-- The places reached by exactly `n` steps. -/
def stepTimes (step : Nat → List Nat) : Nat → List Nat → List Nat
  | 0, places => places
  | n + 1, places => stepTimes step n (stepAll step places)

/-- The places reached by at most `n` steps: those known, and those reached from the new ones. -/
def stepUpTo (step : Nat → List Nat) : Nat → List Nat → List Nat → List Nat
  | 0, known, _ => known
  | n + 1, known, new =>
    match (stepAll step new).filter fun i => !known.contains i with
    | [] => known
    | more => stepUpTo step n (known ++ more) more

/-- The places at which a match from a place can end. -/
def ends (text : Array Char) : Expr → Nat → List Nat
  | empty, i => [i]
  | chars s anyCase, i =>
    match text[i]? with
    | some c => if s.contains anyCase c then [i + 1] else []
    | none => []
  | anchor a, i => if holds text i a then [i] else []
  | seq a b, i => stepAll (ends text b) (ends text a i)
  | alt a b, i => (ends text a i ++ ends text b i).eraseDups
  | repeated a least most, i =>
    let first := stepTimes (ends text a) least [i]
    let more := match most with
      | some n => min (n - least) (text.size + 1)
      | none => text.size + 1
    stepUpTo (ends text a) more first first
  | look false wanted a, i => if (ends text a i).isEmpty != wanted then [i] else []
  | look true wanted a, i =>
    let found := (List.range (i + 1)).any fun j => (ends text a j).contains i
    if found == wanted then [i] else []

/-- Whether some part of a text matches. -/
def matchesIn (e : Expr) (text : List Char) : Bool :=
  let all := text.toArray
  (List.range (all.size + 1)).any fun i => !(ends all e i).isEmpty

end Expr

end PluginAudit.Regex
