/-!
# Binary floating point with 53 digits

Finite numbers of the double format in exact arithmetic. Every operation gives the exact result
rounded to the nearest number of the format, a tie going to an even significand.
-/

namespace PluginAudit.Number

/-- The quotient rounded to the nearest integer, a tie to the even one. -/
def roundHalfEven (num den : Nat) : Nat :=
  let q := num / den
  let r := num % den
  if 2 * r < den then q else if den < 2 * r then q + 1 else q + q % 2

/-- The quotient of two numbers divided by `2 ^ e`, as a quotient. -/
def shifted (num den : Nat) (e : Int) : Nat × Nat :=
  if 0 ≤ e then (num, den <<< e.toNat) else (num <<< (-e).toNat, den)

/-- The quotient of two numbers times `10 ^ k`, as a quotient. -/
def decimalShifted (num den : Nat) (k : Int) : Nat × Nat :=
  if 0 ≤ k then (num * Nat.pow 10 k.toNat, den) else (num, den * Nat.pow 10 (-k).toNat)

/-- The number `significand * 2 ^ exponent`, negated if `negative`. The exponent is the least for
which the significand has at most 53 digits, and not below -1074. -/
structure Binary64 where
  negative : Bool
  significand : Nat
  exponent : Int
  deriving DecidableEq, Repr

namespace Binary64

def leastExponent : Int := -1074

def greatestExponent : Int := 971

def zero (negative : Bool) : Binary64 := ⟨negative, 0, leastExponent⟩

def isZero (x : Binary64) : Bool := x.significand == 0

/-- The exponent that gives a positive quotient 53 binary digits, or the least one. -/
def exponentFor (num den : Nat) : Int :=
  let guess : Int := (num.log2 : Int) - den.log2 - 52
  let (n, d) := shifted num den guess
  max (if n / d < Nat.pow 2 52 then guess - 1 else guess) leastExponent

/-- The number nearest to a quotient; none if it is too large. -/
def ofRatio? (negative : Bool) (num den : Nat) : Option Binary64 :=
  if num == 0 then some (zero negative)
  else
    let e := exponentFor num den
    let (n, d) := shifted num den e
    let m := roundHalfEven n d
    let x : Binary64 := if m == Nat.pow 2 53 then ⟨negative, Nat.pow 2 52, e + 1⟩ else ⟨negative, m, e⟩
    if x.exponent ≤ greatestExponent then some x else none

/-- The number nearest to `digits * 10 ^ exponent`. -/
def ofDecimal? (negative : Bool) (digits : Nat) (exponent : Int) : Option Binary64 :=
  if digits == 0 || exponent + digits.log2 < -400 then some (zero negative)
  else if 400 < exponent then none
  else
    let (num, den) := decimalShifted digits 1 exponent
    ofRatio? negative num den

/-- The number nearest to an integer that is not too large. -/
def ofInt (i : Int) : Binary64 := (ofRatio? (i < 0) i.natAbs 1).getD (zero false)

def ratio (x : Binary64) : Nat × Nat := shifted x.significand 1 (-x.exponent)

/-- The value as a quotient with a positive denominator. -/
def fraction (x : Binary64) : Int × Nat :=
  let (n, d) := x.ratio
  (if x.negative then -(n : Int) else n, d)

def negate (x : Binary64) : Binary64 := { x with negative := !x.negative }

def mul? (x y : Binary64) : Option Binary64 :=
  let (a, b) := x.ratio
  let (c, d) := y.ratio
  ofRatio? (x.negative != y.negative) (a * c) (b * d)

def div? (x y : Binary64) : Option Binary64 :=
  let (a, b) := x.ratio
  let (c, d) := y.ratio
  if c == 0 then none else ofRatio? (x.negative != y.negative) (a * d) (b * c)

/-- The sum; none if it is too large. A sum of zero is positive. -/
def add? (x y : Binary64) : Option Binary64 :=
  let (m, d) := x.fraction
  let (n, e) := y.fraction
  let sum := m * e + n * d
  ofRatio? (sum < 0) sum.natAbs (d * e)

def le (x y : Binary64) : Bool :=
  let (m, d) := x.fraction
  let (n, e) := y.fraction
  m * e ≤ n * d

def isIntegral (x : Binary64) : Bool :=
  let (n, d) := x.ratio
  n % d == 0

/-- Whether the value is an integer multiple of another that is not zero. -/
def isMultipleOf (x y : Binary64) : Bool :=
  let (a, b) := x.ratio
  let (c, d) := y.ratio
  c != 0 && (a * d) % (b * c) == 0

def toInt? (x : Binary64) : Option Int :=
  let (n, d) := x.fraction
  if n % d == 0 then some (n / d) else none

end Binary64

end PluginAudit.Number
