import PluginAudit.Number.Shortest

/-!
# Values of documents

What a JSON or YAML document holds. Members of objects are sorted by key, each key once.
-/

namespace PluginAudit

open Number

inductive Numeral where
  | int (i : Int)
  | float (x : Binary64)
  deriving DecidableEq, Repr

namespace Numeral

/-- The value as a quotient with a positive denominator. -/
def fraction : Numeral → Int × Nat
  | int i => (i, 1)
  | float x => x.fraction

/-- The order of the values, whatever their forms. -/
def le (a b : Numeral) : Bool :=
  let (m, d) := a.fraction
  let (n, e) := b.fraction
  m * e ≤ n * d

/-- Equality of the values: `1` is `1.0`. -/
def same (a b : Numeral) : Bool := a.le b && b.le a

def lt (a b : Numeral) : Bool := !b.le a

def isIntegral : Numeral → Bool
  | int _ => true
  | float x => x.isIntegral

def toFloat : Numeral → Binary64
  | int i => .ofInt i
  | float x => x

theorem le_total (a b : Numeral) : a.le b || b.le a := by
  simp only [le, Bool.or_eq_true, decide_eq_true_eq]
  exact Int.le_total _ _

end Numeral

inductive Value where
  | null
  | bool (b : Bool)
  | number (n : Numeral)
  | string (s : String)
  | array (items : List Value)
  | object (members : List (String × Value))
  deriving Repr

namespace Value

instance : Inhabited Value := ⟨null⟩

/-- Sets a member; members stay sorted and an old value of the key is replaced. -/
def insert (key : String) (v : Value) : List (String × Value) → List (String × Value)
  | [] => [(key, v)]
  | (k, w) :: rest =>
    if key < k then (key, v) :: (k, w) :: rest
    else if key == k then (key, v) :: rest
    else (k, w) :: insert key v rest

/-- The object of some members; of equal keys the last counts. -/
def ofMembers (members : List (String × Value)) : Value :=
  .object (members.foldl (fun all (k, v) => insert k v all) [])

def members? : Value → Option (List (String × Value))
  | object ms => some ms
  | _ => none

def get? (key : String) : Value → Option Value
  | object ms => ms.lookup key
  | _ => none

def has (key : String) (v : Value) : Bool := (v.get? key).isSome

def ofNat (n : Nat) : Value := number (.int n)

mutual

/-- Equality in which numbers count by their values. -/
def same : Value → Value → Bool
  | null, null => true
  | bool a, bool b => a == b
  | number a, number b => a.same b
  | string a, string b => a == b
  | array as, array bs => sameItems as bs
  | object as, object bs => sameMembers as bs
  | _, _ => false

def sameItems : List Value → List Value → Bool
  | [], [] => true
  | a :: as, b :: bs => a.same b && sameItems as bs
  | _, _ => false

/-- Members are sorted by key, so they are compared in turn. -/
def sameMembers : List (String × Value) → List (String × Value) → Bool
  | [], [] => true
  | (k, a) :: as, (l, b) :: bs => k == l && a.same b && sameMembers as bs
  | _, _ => false

end

mutual

/-- The number of values in a value, itself and the keys included. -/
def size : Value → Nat
  | array items => 1 + sizeItems items
  | object members => 1 + sizeMembers members
  | _ => 1

def sizeItems : List Value → Nat
  | [] => 0
  | v :: vs => v.size + sizeItems vs

def sizeMembers : List (String × Value) → Nat
  | [] => 0
  | (_, v) :: ms => 1 + v.size + sizeMembers ms

end

@[simp] theorem insert_ne_nil (key : String) (v : Value) (ms : List (String × Value)) :
    insert key v ms ≠ [] := by
  cases ms with
  | nil => simp [insert]
  | cons m ms =>
    simp only [insert]
    split
    · simp
    · split <;> simp

theorem lookup_insert_self (key : String) (v : Value) (ms : List (String × Value)) :
    (insert key v ms).lookup key = some v := by
  induction ms with
  | nil => simp [insert]
  | cons m ms ih =>
    obtain ⟨k, w⟩ := m
    simp only [insert]
    split
    · simp
    · split
      · simp
      · rename_i h
        have : (key == k) = false := by simpa using h
        simp [List.lookup_cons, this, ih]

end Value

end PluginAudit
