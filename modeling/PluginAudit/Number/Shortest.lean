import PluginAudit.Number.Binary64

/-!
# The shortest decimal text of a number

The fewest digits that read back as the same number, and of these the nearest to it. Integers of up
to sixteen digits and fractions down to five places are written out, all else with an exponent.
-/

namespace PluginAudit.Number

/-- The exponent of the first decimal digit of a positive quotient. -/
def decimalMagnitude (num den : Nat) : Int :=
  if den ≤ num then ((num / den).repr.length : Int) - 1 else -(go 400 num 0)
where
  /-- The number of decimal shifts that make the quotient at least one. -/
  go : Nat → Nat → Int → Int
    | 0, _, k => k
    | n + 1, num, k => if den ≤ num then k else go n (num * 10) (k + 1)

/-- The numbers that are read as a given one: its value and its two bounds over one denominator. -/
structure Rounding where
  low : Nat
  value : Nat
  high : Nat
  den : Nat
  /-- The bounds themselves are read as the number. -/
  closed : Bool

namespace Rounding

def of (x : Binary64) : Rounding :=
  let m := x.significand
  let narrow := m == Nat.pow 2 52 && x.exponent != Binary64.leastExponent
  let at_ (n : Nat) : Nat := (shifted n 1 (2 - x.exponent)).1
  { low := at_ (4 * m - (if narrow then 1 else 2))
    value := at_ (4 * m)
    high := at_ (4 * m + 2)
    den := (shifted 1 1 (2 - x.exponent)).2
    closed := m % 2 == 0 }

/-- Whether `digits * 10 ^ k` is read as the number. -/
def holds (r : Rounding) (digits : Nat) (k : Int) : Bool :=
  let (n, d) := decimalShifted digits 1 k
  let x := n * r.den
  if r.closed then r.low * d ≤ x && x ≤ r.high * d else r.low * d < x && x < r.high * d

/-- The multiple of `10 ^ k` that is read as the number and nearest to it, as a factor. -/
def onGrid? (r : Rounding) (k : Int) : Option Nat :=
  let (n, d) := decimalShifted r.value r.den (-k)
  let below := n / d
  let twice := 2 * (n % d)
  let nearest := if twice < d then below else if d < twice then below + 1 else below + below % 2
  let other := if nearest == below then below + 1 else below
  if r.holds nearest k then some nearest
  else if r.holds other k then some other
  else none

/-- The first grid that holds a number read as the given one, from coarse to fine. -/
def search (r : Rounding) : Nat → Int → Nat × Int
  | 0, k => ((r.onGrid? k).getD 0, k)
  | n + 1, k =>
    match r.onGrid? k with
    | some digits => (digits, k)
    | none => search r n (k - 1)

end Rounding

def dropZeros : Nat → Nat → Int → Nat × Int
  | 0, d, k => (d, k)
  | n + 1, d, k => if d != 0 && d % 10 == 0 then dropZeros n (d / 10) (k + 1) else (d, k)

/-- The shortest digits of a number that is not zero, and the exponent of the last. -/
def Binary64.shortest (x : Binary64) : Nat × Int :=
  let r := Rounding.of x
  let (digits, k) := r.search 17 (decimalMagnitude r.value r.den)
  dropZeros 17 digits k

def zeros (n : Nat) : String := String.ofList (List.replicate n '0')

def exponentText (e : Int) : String :=
  let digits := e.natAbs.repr
  (if e < 0 then "e-" else "e+") ++ (if digits.length < 2 then "0" else "") ++ digits

def decimalText (digits : Nat) (k : Int) : String :=
  let ds := digits.repr
  let point := (ds.length : Int) + k
  let cut (n : Nat) : String × String :=
    (String.ofList (ds.toList.take n), String.ofList (ds.toList.drop n))
  if 0 ≤ k && point ≤ 16 then ds ++ zeros k.toNat ++ ".0"
  else if 0 < point && point ≤ 16 then
    let (whole, rest) := cut point.toNat
    whole ++ "." ++ rest
  else if -5 < point && point ≤ 0 then "0." ++ zeros (-point).toNat ++ ds
  else
    let (first, rest) := cut 1
    first ++ (if rest.isEmpty then "" else "." ++ rest) ++ exponentText (point - 1)

def Binary64.text (x : Binary64) : String :=
  let digits := if x.isZero then "0.0" else
    let (digits, k) := x.shortest
    decimalText digits k
  if x.negative then "-" ++ digits else digits

end PluginAudit.Number
