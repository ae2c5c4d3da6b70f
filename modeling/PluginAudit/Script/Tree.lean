/-!
# Syntax trees

A tree is a node with a kind, the bytes it spans and its parts in source order. The kind says
what the node is and holds what is not a part: flags, operators and the text of leaves.
-/

namespace PluginAudit.Script

inductive DeclarationWord where
  | var | let | const | using | awaitUsing
  deriving DecidableEq, Repr

/-- How a function or class came to be where it is. -/
inductive Place where
  | statement
  /-- Part of an expression, methods of object literals included. -/
  | expression
  /-- The value of a method of a class. -/
  | method
  | export
  deriving DecidableEq, Repr

inductive DotsPlace where
  | arrayElement | argument | objectProperty
  | arrayPattern | objectPattern | parameters
  | arrayTarget | objectTarget
  deriving DecidableEq, Repr

inductive PropertyForm where
  | value | method | getter | setter
  deriving DecidableEq, Repr

inductive Kind where
  | program | hashbang | directive
  -- statements
  | expressionStatement | block | emptyStatement | ifStatement | doLoop | whileLoop
  | forLoop | forIn | forOf (await : Bool) | jump | withStatement | switchStatement | switchCase
  | throwStatement | tryStatement | catchClause (bound : Bool) | debuggerStatement | labelled
  | returnStatement | declaration (word : DeclarationWord) | declarator
  -- functions and classes
  | function (place : Place) (async generator : Bool) | arrow (async : Bool)
  | parameters | parameter | body
  | classDefinition (place : Place) | method | field | accessorField | staticBlock | decorator
  -- leaves
  | name (raw : List Char) | privateName (raw : List Char)
  | string (raw : List Char) | number (raw : List Char) | bigint (raw : List Char)
  | regex (raw : List Char) | constant
  -- expressions
  | template (tagged : Bool) | templateText | taggedTemplate
  | array (trailingComma : Option Nat) | hole | spread (place : DotsPlace)
  | object | property (form : PropertyForm) (computed shorthand : Bool)
  | unary | update | binary (sign : String) | logical (sign : String) | conditional
  | assignment (sign : String) | sequence | parenthesized
  | call (optional : Bool) | newCall | member | chain
  | metaProperty | superWord | importCall | yield | await | privateIn
  -- patterns that bind
  | objectPattern | patternProperty (computed shorthand : Bool) | arrayPattern | defaulted
  | rest (place : DotsPlace)
  -- patterns that assign
  | objectTarget | targetProperty (computed shorthand : Bool) | arrayTarget | defaultedTarget
  -- what a class is said to implement, and what it or its base is applied to
  | type | bigintType (raw : List Char) | templateType
  -- modules
  | importDeclaration | exportNamed | exportDefault | exportAll | specifier | attribute
  deriving DecidableEq, Repr

inductive Tree where
  | node (kind : Kind) (start stop : Nat) (parts : List Tree)
  deriving Repr

namespace Tree

def kind : Tree → Kind
  | .node k _ _ _ => k

def start : Tree → Nat
  | .node _ s _ _ => s

def stop : Tree → Nat
  | .node _ _ e _ => e

def parts : Tree → List Tree
  | .node _ _ _ ps => ps

@[simp] theorem kind_node (k s e ps) : (node k s e ps).kind = k := rfl
@[simp] theorem start_node (k s e ps) : (node k s e ps).start = s := rfl
@[simp] theorem stop_node (k s e ps) : (node k s e ps).stop = e := rfl
@[simp] theorem parts_node (k s e ps) : (node k s e ps).parts = ps := rfl

instance : Inhabited Tree := ⟨.node .emptyStatement 0 0 []⟩

def withKind (t : Tree) (k : Kind) : Tree :=
  .node k t.start t.stop t.parts

def isName (t : Tree) : Bool :=
  match t.kind with
  | .name _ => true
  | _ => false

mutual

/-- The tree and all trees within, each before its parts. -/
def nodes : Tree → List Tree
  | .node k s e ps => .node k s e ps :: nodesOfAll ps

def nodesOfAll : List Tree → List Tree
  | [] => []
  | t :: ts => nodes t ++ nodesOfAll ts

end

theorem self_mem_nodes (t : Tree) : t ∈ t.nodes := by
  cases t; simp [nodes]

theorem nodesOfAll_eq_flatMap (ts : List Tree) : nodesOfAll ts = ts.flatMap nodes := by
  induction ts with
  | nil => simp [nodesOfAll]
  | cons t ts ih => simp [nodesOfAll, ih]

end Tree

end PluginAudit.Script
