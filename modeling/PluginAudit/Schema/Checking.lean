import PluginAudit.Schema.Basic

/-!
# Checking values against schemas

`violations` lists all violations of a value, constraint by constraint.
-/

namespace PluginAudit.Schema

open Number

def fail (path : List Piece) (v : Value) (c : Cause) : List Violation := [⟨path, v, c⟩]

def failIf (b : Bool) (path : List Piece) (v : Value) (c : Cause) : List Violation :=
  if b then fail path v c else []

/-! ## Constraints on single values -/

/-- The greatest remainder of a quotient that counts as none. -/
def tolerance : Nat × Nat := (1, Nat.pow 2 52)

/-- The absolute value of a number as a quotient over a power of ten: the number is multiplied by ten,
and rounded, until it is an integer. This takes fewer than 400 steps. -/
def decimalRatio (x : Binary64) : Nat × Nat := go 400 x 1
where
  go : Nat → Binary64 → Nat → Nat × Nat
    | 0, _, den => (0, den)
    | n + 1, x, den =>
      match x.toInt? with
      | some i => (i.natAbs, den)
      | none => (x.mul? (.ofInt 10)).elim (0, den) fun y => go n y (den * 10)

/-- Whether the decimal value of a number is an integer multiple of that of another. -/
def isDecimalMultiple (x n : Binary64) : Bool :=
  let (a, b) := decimalRatio x
  let (c, d) := decimalRatio n
  c != 0 && a * d % (b * c) == 0

/-- Whether the quotient of two numbers is near enough to an integer from above, or negative. If it
is too large, the decimal values decide. -/
def isNearMultiple (x n : Binary64) : Bool :=
  match x.div? n with
  | none => isDecimalMultiple x n
  | some q =>
    let (a, b) := q.ratio
    q.negative || a % b * tolerance.2 < b * tolerance.1

def isMultiple (x n : Numeral) : Bool :=
  let x := x.toFloat
  let n := n.toFloat
  if n.isIntegral then x.isMultipleOf n else isNearMultiple x n

def checkCount (least : Bool) (limit : Nat) (count : Nat) (few many : Nat → Cause)
    (path : List Piece) (v : Value) : List Violation :=
  if least then failIf (count < limit) path v (few limit)
  else failIf (limit < count) path v (many limit)

def hasRepeated : List Value → Bool
  | [] => false
  | v :: vs => vs.any v.same || hasRepeated vs

/-- The violations of a constraint that has no schemas in it. -/
def checkPlain (path : List Piece) (v : Value) : Constraint → List Violation
  | .types ts strict => failIf (!ts.any fun t => t.holds strict v) path v (.wrongType ts)
  | .enum options => failIf (!options.any v.same) path v (.notAnOption options)
  | .const w => failIf (!v.same w) path v (.notTheValue w)
  | .minimum limit exclusive =>
    match v with
    | .number x =>
      failIf (if exclusive then x.le limit else x.lt limit) path v (.below limit exclusive)
    | _ => []
  | .maximum limit exclusive =>
    match v with
    | .number x =>
      failIf (if exclusive then limit.le x else limit.lt x) path v (.above limit exclusive)
    | _ => []
  | .multipleOf n =>
    match v with
    | .number x => failIf (!isMultiple x n) path v (.notMultiple n)
    | _ => []
  | .length least n =>
    match v with
    | .string s => checkCount least n s.length .tooShort .tooLong path v
    | _ => []
  | .itemCount least n =>
    match v with
    | .array vs => checkCount least n vs.length .tooFewItems .tooManyItems path v
    | _ => []
  | .propertyCount least n =>
    match v with
    | .object ms => checkCount least n ms.length .tooFewProperties .tooManyProperties path v
    | _ => []
  | .pattern text e =>
    match v with
    | .string s => failIf (!e.matchesIn s.toList) path v (.noMatch text)
    | _ => []
  | .format f =>
    match v with
    | .string s => failIf (!f.fits s.toList) path v (.wrongFormat f.name)
    | _ => []
  | .noMoreItems count =>
    match v with
    | .array vs => failIf (count < vs.length) path v (.extraItems (vs.drop count))
    | _ => []
  | .unique =>
    match v with
    | .array vs => failIf (hasRepeated vs) path v .notUnique
    | _ => []
  | .required keys =>
    match v with
    | .object _ => (keys.filter fun k => !v.has k).flatMap fun k => fail path v (.missing k)
    | _ => []
  | .noProperties =>
    match v with
    | .object ((_, w) :: _) => fail path w .nothingAllowed
    | _ => []
  | _ => []

/-! ## Constraints with schemas -/

abbrev Check := Schema → List Piece → Value → List Violation

def accepts (check : Check) (s : Schema) (v : Value) : Bool := (check s [] v).isEmpty

def fitting (ps : List (Regex.Expr × Schema)) (key : String) : List Schema :=
  (ps.filter fun (e, _) => e.matchesIn key.toList).map (·.2)

/-- The schemas that a property has to fit because of its name. -/
def schemasFor (known : List (String × Schema)) (ps : List (Regex.Expr × Schema))
    (key : String) : List Schema :=
  (known.lookup key).toList ++ fitting ps key

def checkIn (check : Check) (path : List Piece) (key : String) (w : Value) (ss : List Schema) :
    List Violation :=
  ss.flatMap fun s => check s (.key key :: path) w

def withIndex (vs : List Value) : List (Nat × Value) := (List.range vs.length).zip vs

def containsCount (check : Check) (s : Schema) (vs : List Value) : Nat :=
  vs.countP (accepts check s)

/-- Whether the number of items that fit is in bounds; one is enough if none is given. -/
def containsEnough (count : Nat) (least most : Option Nat) : Bool :=
  match least, most with
  | none, none => 0 < count
  | some m, none => m ≤ count
  | none, some n => 0 < count && count ≤ n
  | some m, some n => m ≤ count && count ≤ n

/-- The places of the value that are evaluated by constraints: keys of objects. -/
abbrev Evaluated := List Constraint → Value → List Piece

def keysOf (v : Value) : List (String × Value) := v.members?.getD []

def itemsOf : Value → List (Nat × Value)
  | .array vs => withIndex vs
  | _ => []

def Schema.constraints : Schema → List Constraint
  | .all cs => cs
  | _ => []

def propertyPieces (v : Value) (p : String → Value → Bool) : List Piece :=
  ((keysOf v).filter fun (k, w) => p k w).map fun (k, _) => .key k

def itemPieces (v : Value) (p : Nat → Value → Bool) : List Piece :=
  ((itemsOf v).filter fun (i, w) => p i w).map fun (i, _) => .index i

/-- The pieces of a value that a constraint evaluates. -/
def evaluatedBy (check : Check) (inner : Evaluated) (table : Table) (v : Value) :
    Constraint → List Piece
  | .reference p =>
    match table.lookup p with
    | some s => inner s.constraints v
    | none => []
  | .properties known =>
    propertyPieces v fun k w => (known.lookup k).any fun s => accepts check s w
  | .patterns ps => propertyPieces v fun k w => (fitting ps k).any fun s => accepts check s w
  | .additional known ps rest =>
    propertyPieces v fun k w =>
      accepts check rest w || (schemasFor known ps k).any fun s => accepts check s w
  | .closed known ps =>
    propertyPieces v fun k w => (schemasFor known ps k).any fun s => accepts check s w
  | .unevaluatedProperties s => propertyPieces v fun _ w => accepts check s w
  | .items skipped s => itemPieces v fun i w => skipped ≤ i && accepts check s w
  | .tuple ss => itemPieces v fun i _ => i < ss.length
  | .contains s _ _ => itemPieces v fun _ w => accepts check s w
  | .unevaluatedItems s => itemPieces v fun _ w => accepts check s w
  | .dependent ss => (ss.filter fun (k, _) => v.has k).flatMap fun (_, s) => inner s.constraints v
  | .allOf ss => (ss.filter fun s => accepts check s v).flatMap fun s => inner s.constraints v
  | .anyOf ss => (ss.filter fun s => accepts check s v).flatMap fun s => inner s.constraints v
  | .oneOf ss => (ss.filter fun s => accepts check s v).flatMap fun s => inner s.constraints v
  | .conditional test yes no =>
    if accepts check test v then
      inner test.constraints v ++ (yes.map fun s => inner s.constraints v).getD []
    else (no.map fun s => inner s.constraints v).getD []
  | _ => []

def optionally (check : Check) (path : List Piece) (v : Value) (s : Option Schema) :
    List Violation :=
  (s.map fun s => check s path v).getD []

def checkOne (check : Check) (evaluated : Evaluated) (table : Table) (all : List Constraint)
    (path : List Piece) (v : Value) : Constraint → List Violation
  | .reference p => optionally check path v (table.lookup p)
  | .items skipped s =>
    ((itemsOf v).drop skipped).flatMap fun (i, w) => check s (.index i :: path) w
  | .tuple ss => ((itemsOf v).zip ss).flatMap fun ((i, w), s) => check s (.index i :: path) w
  | .contains s least most =>
    match v with
    | .array vs =>
      failIf (!containsEnough (containsCount check s vs) least most) path v .noneContained
    | _ => []
  | .properties known =>
    known.flatMap fun (k, s) => ((v.get? k).map (check s (.key k :: path))).getD []
  | .patterns ps =>
    ps.flatMap fun (e, s) => (keysOf v).flatMap fun (k, w) =>
      if e.matchesIn k.toList then check s (.key k :: path) w else []
  | .additional known ps rest =>
    (keysOf v).flatMap fun (k, w) =>
      match schemasFor known ps k with
      | [] => check rest (.key k :: path) w
      | ss => checkIn check path k w ss
  | .closed known ps =>
    let extra := (keysOf v).filter fun (k, _) => (schemasFor known ps k).isEmpty
    ((keysOf v).flatMap fun (k, w) => checkIn check path k w (schemasFor known ps k)) ++
      failIf (!extra.isEmpty) path v (.extraProperties (extra.map (·.1)))
  | .propertyNames .nothing => failIf (!(keysOf v).isEmpty) path v .nothingAllowed
  | .propertyNames s =>
    (keysOf v).flatMap fun (k, _) =>
      (check s [] (.string k)).map fun e => { e with path := path }
  | .dependent ss => (ss.filter fun (k, _) => v.has k).flatMap fun (_, s) => check s path v
  | .allOf ss => ss.flatMap fun s => check s path v
  | .anyOf ss => failIf (!ss.any fun s => accepts check s v) path v .noneOfAny
  | .oneOf ss =>
    match ss.countP fun s => accepts check s v with
    | 0 => fail path v .noneOfOne
    | 1 => []
    | _ => fail path v .severalOfOne
  | .excluded source s => failIf (accepts check s v) path v (.excluded source)
  | .conditional test yes no =>
    optionally check path v (if accepts check test v then yes else no)
  | .unevaluatedProperties _ =>
    let known := evaluated all v
    let left := (keysOf v).filter fun (k, _) => !known.contains (.key k)
    failIf (!left.isEmpty) path v (.unevaluatedProperties (left.map (·.1)))
  | .unevaluatedItems _ =>
    let known := evaluated all v
    let left := (itemsOf v).filter fun (i, _) => !known.contains (.index i)
    failIf (!left.isEmpty) path v (.unevaluatedItems (left.map (·.2)))
  | c => checkPlain path v c

mutual

def check (table : Table) : Nat → Check
  | 0, _, _, _ => []
  | _ + 1, .anything, _, _ => []
  | _ + 1, .nothing, path, v => fail path v .nothingAllowed
  | n + 1, .all cs, path, v =>
    cs.flatMap (checkOne (check table n) (evaluated table n) table cs path v)

def evaluated (table : Table) : Nat → Evaluated
  | 0, _, _ => []
  | n + 1, cs, v => cs.flatMap (evaluatedBy (check table n) (evaluated table n) table v)

end

structure Compiled where
  root : Schema
  table : Table
  /-- More than the number of schemas that can apply to one value. -/
  budget : Nat

def Compiled.violations (c : Compiled) (v : Value) : List Violation :=
  check c.table (c.budget * (v.size + 1)) c.root [] v

end PluginAudit.Schema
