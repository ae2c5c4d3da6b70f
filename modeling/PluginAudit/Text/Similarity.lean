import PluginAudit.Number.Binary64

/-!
# Similarity of words

Two words are similar by the characters that they have in common at about the same place, and by how
many of these come in another order. The measure of Jaro is computed in binary floating point.
-/

namespace PluginAudit.Text

open Number

namespace Similarity

/-- A character, and whether it has a partner. -/
abbrev Place := Char × Bool

/-- Makes the first free `c` a partner, passing `skip` places and looking at `count`. -/
def pair? (c : Char) : Nat → Nat → List Place → Option (List Place)
  | _, _, [] => none
  | skip + 1, count, p :: ps => (pair? c skip count ps).map (p :: ·)
  | 0, 0, _ => none
  | 0, count + 1, p :: ps =>
    if p.1 == c && !p.2 then some ((c, true) :: ps) else (pair? c 0 count ps).map (p :: ·)

/-- How far apart partners may be. -/
def reach (m n : Nat) : Nat := max m n / 2 - 1

/-- Finds partners for characters from index `i` on: those that have one, and the other word. -/
def pairAll (reach : Nat) : Nat → List Char → List Place → List Char × List Place
  | _, [], ps => ([], ps)
  | i, c :: cs, ps =>
    let low := i - reach
    match pair? c low (i + reach + 1 - low) ps with
    | some ps =>
      let (found, ps) := pairAll reach (i + 1) cs ps
      (c :: found, ps)
    | none => pairAll reach (i + 1) cs ps

def partners (a b : List Char) : List Char × List Char :=
  let (found, ps) := pairAll (reach a.length b.length) 0 a (b.map (·, false))
  (found, (ps.filter (·.2)).map (·.1))

def quotient (m n : Nat) : Binary64 := (Binary64.ofRatio? false m n).getD (.zero false)

def sum (x y : Binary64) : Binary64 := (x.add? y).getD (.zero false)

def third (x : Binary64) : Binary64 := (x.div? (.ofInt 3)).getD (.zero false)

end Similarity

open Similarity

def similarity (a b : List Char) : Binary64 :=
  let (p, q) := partners a b
  let m := p.length
  if m == 0 then if a.isEmpty && b.isEmpty then .ofInt 1 else .zero false
  else
    let moved := (p.zip q).countP (fun (c, d) => c != d) / 2
    third (sum (sum (quotient m a.length) (quotient m b.length)) (quotient (m - moved) m))

/-- Words that are more similar than this are taken for misspellings of each other. -/
def similarityLimit : Binary64 := quotient 7 10

/-- The better of two candidates; of equals the later one. -/
def betterOf {α : Type} : Option (Binary64 × α) → Binary64 × α → Option (Binary64 × α)
  | none, y => some y
  | some x, y => if x.1.le y.1 then some y else some x

/-- The candidate that a word is most likely a misspelling of. -/
def mostSimilar? {α : Type} (name : α → String) (word : String) (candidates : List α) : Option α :=
  let scored := candidates.map fun c => (similarity word.toList (name c).toList, c)
  ((scored.filter fun (s, _) => !s.le similarityLimit).foldl betterOf none).map (·.2)

end PluginAudit.Text
