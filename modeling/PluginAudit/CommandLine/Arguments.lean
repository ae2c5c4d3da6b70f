import PluginAudit.CommandLine.UsageError

/-!
# Reading arguments

Arguments are read from left to right. The values of an option are held back until the option is
known to have no more of them, and only then looked at. After `--` all arguments are plain.
-/

namespace PluginAudit.CommandLine

open Text

inductive Request where
  | run (o : Options)
  | help (long : Bool)
  | version
  deriving DecidableEq, Repr

namespace Arguments

structure State where
  options : Options := {}
  used : List Argument := []
  /-- An argument and its values so far. -/
  pending : Option (Argument × List String) := none
  /-- All arguments that follow are plain. -/
  plain : Bool := false
  deriving DecidableEq, Repr

/-- The arguments that count as given after one more. -/
def usedAfter (used : List Argument) (a : Argument) : List Argument :=
  if used.contains a then if a.takesMany then used else used.erase a else used ++ [a]

def nonempty (a : Argument) (v : String) : Except UsageError String :=
  if v.isEmpty then .error (.missingValue a) else .ok v

def assign (o : Options) (a : Argument) (values : List String) : Except UsageError Options :=
  match a, values with
  | .root, [v] => return { o with root := ← nonempty a v }
  | .pattern, [v] => return { o with pattern := v }
  | .format, [v] => do
    match OutputFormat.ofName? (← nonempty a v) with
    | some f => return { o with format := f }
    | none => throw (.unknownFormat v)
  | .config, vs => return { o with configs := o.configs ++ (← vs.mapM (nonempty a)) }
  | .schemaDir, [v] => return { o with schemaDir := ← nonempty a v }
  | .about, _ => return { o with about := true }
  | _, _ => return o

namespace State

/-- Takes an argument with its values into the options. -/
def give (s : State) (a : Argument) (values : List String) : Except UsageError State := do
  if a.takesValue && values.isEmpty then throw (.missingValue a)
  if s.used.contains a && !a.takesMany then throw (.repeated a)
  return { s with options := ← assign s.options a values, used := usedAfter s.used a }

def settle (s : State) : Except UsageError State :=
  match s.pending with
  | none => .ok s
  | some (a, values) => { s with pending := none }.give a values

def usedSoFar (s : State) : List Argument :=
  match s.pending with
  | some (a, _ :: _) => usedAfter s.used a
  | _ => s.used

/-- The pending option that the next value belongs to. -/
def awaiting? (s : State) : Option (Argument × List String) :=
  s.pending.filter fun (a, values) => a != .root && (a.takesMany || values.isEmpty)

def hasRoot (s : State) : Bool := s.usedSoFar.contains .root

def unknownName (s : State) (name : String) : UsageError :=
  let similar := mostSimilar? (fun a => a.longName?.getD "") name Argument.named
  .unknown ("--" ++ name) similar true s.usedSoFar

/-- Takes an argument without a name: a value of the pending option, or the root. -/
def giveValue (s : State) (value : String) : Except UsageError State :=
  match if s.plain then none else s.awaiting? with
  | some (a, values) => .ok { s with pending := some (a, values ++ [value]) }
  | none =>
    if s.hasRoot then
      .error (.unknown value none false [])
    else do
      let s ← s.settle
      return { s with pending := some (.root, [value]) }

/-- Takes an argument that is known by its name, and its value if one is attached to it. The request
is there if it needs no other arguments. -/
def giveNamed (s : State) (a : Argument) (long : Bool) (value? : Option String) :
    Except UsageError (State × Option Request) :=
  match a.takesValue, value? with
  | false, some v => .error (.surplusValue a v s.used)
  | false, none => do
    let s ← s.settle
    match a with
    | .help => return (s, some (.help long))
    | .version => return (s, some .version)
    | a => return (← s.give a [], none)
  | true, some v => do
    let s ← s.settle
    return (← s.give a [v], none)
  | true, none => do
    let s ← s.settle
    return ({ s with pending := some (a, []) }, none)

end State

/-- The name and the value of an argument that begins with two hyphens. -/
def long? (arg : String) : Option (String × Option String) :=
  match arg.toList with
  | '-' :: '-' :: cs =>
    let name := cs.takeWhile (· != '=')
    some (String.ofList name, match cs.drop name.length with
      | [] => none
      | _ :: value => some (String.ofList value))
  | _ => none

/-- The first letter after a single hyphen. -/
def short? (arg : String) : Option Char :=
  match arg.toList with
  | '-' :: c :: _ => some c
  | _ => none

def step (s : State) (arg : String) : Except UsageError (State × Option Request) :=
  if s.plain then return (← s.giveValue arg, none)
  else if arg == "--" then .ok ({ s with plain := true }, none)
  else
    match long? arg, short? arg with
    | some (name, value?), _ =>
      match Argument.ofLongName? name with
      | some a => s.giveNamed a true value?
      | none => .error (s.unknownName name)
    | none, some c =>
      match Argument.ofShortName? c with
      | some a => s.giveNamed a false none
      | none => .error (.unknown (String.ofList ['-', c]) none true [])
    | none, none => return (← s.giveValue arg, none)

def readFrom (s : State) : List String → Except UsageError Request
  | [] => return .run (← s.settle).options
  | arg :: rest => do
    match ← step s arg with
    | (_, some r) => return r
    | (s, none) => readFrom s rest

end Arguments

def readArguments (args : List String) : Except UsageError Request := Arguments.readFrom {} args

end PluginAudit.CommandLine
