import Mathlib.Data.List.TakeWhile
import PluginAudit.Script.Tree

/-!
# What trees are made of

`Kind.content` says which parts a node of each kind has, as a grammar of kinds. A tree is
well formed if every node in it has the parts its kind asks for.
-/

namespace PluginAudit.Script

abbrev KindClass := Kind → Bool

namespace Kind

/-! ## Classes of kinds -/

def isDecorator (k : Kind) : Bool := k == .decorator

def isPlainName : KindClass
  | .name _ => true
  | _ => false

def isStringLiteral : KindClass
  | .string _ => true
  | _ => false

def isNumberLiteral : KindClass
  | .number _ | .bigint _ => true
  | _ => false

/-- What is an expression by itself. A call by `?.` is one only as part of a chain. -/
def isExpression : KindClass
  | .name _ | .string _ | .number _ | .bigint _ | .regex _ | .constant => true
  | .template tagged => !tagged
  | .call optional => !optional
  | .taggedTemplate | .array _ | .object | .unary | .update | .binary _ | .logical _ => true
  | .conditional | .assignment _ | .sequence | .parenthesized | .newCall => true
  | .member | .chain | .metaProperty | .superWord | .importCall | .yield | .await => true
  | .privateIn | .arrow _ => true
  | .function place _ _ | .classDefinition place => place == .expression
  | _ => false

/-- What a member, call or template may be of, within a chain. -/
def isOperand (k : Kind) : Bool := k.isExpression || k == .call true

def isDeclaration : KindClass
  | .declaration _ => true
  | _ => false

def isStatement : KindClass
  | .directive | .expressionStatement | .block | .emptyStatement | .ifStatement => true
  | .doLoop | .whileLoop | .forLoop | .forIn | .forOf _ | .jump | .withStatement => true
  | .switchStatement | .throwStatement | .tryStatement | .debuggerStatement => true
  | .labelled | .returnStatement | .declaration _ => true
  | .importDeclaration | .exportNamed | .exportDefault | .exportAll => true
  | .function place _ _ | .classDefinition place => place == .statement
  | _ => false

/-- Statements with no other statements in them but those of functions and classes. -/
def isPlainStatement : KindClass
  | .directive | .expressionStatement | .emptyStatement | .jump | .throwStatement => true
  | .debuggerStatement | .declaration _ => true
  | .importDeclaration | .exportNamed | .exportDefault | .exportAll => true
  | .function place _ _ | .classDefinition place => place == .statement
  | _ => false

/-- What a declaration, parameter or `catch` binds. -/
def isPattern : KindClass
  | .name _ | .objectPattern | .arrayPattern => true
  | _ => false

def isBindingElement (k : Kind) : Bool := k.isPattern || k == .defaulted

def isTarget : KindClass
  | .name _ | .member | .objectTarget | .arrayTarget => true
  | _ => false

/-- A target that is no pattern. -/
def isSimpleTarget : KindClass
  | .name _ | .member => true
  | _ => false

def isTargetElement (k : Kind) : Bool := k.isTarget || k == .defaultedTarget

def isMemberKey : KindClass
  | .privateName _ => true
  | k => k.isExpression

def isClassMember : KindClass
  | .method | .field | .accessorField | .staticBlock => true
  | _ => false

def isType : KindClass
  | .type | .bigintType _ | .templateType => true
  | .string _ | .number _ | .bigint _ | .constant => true
  | _ => false

def isFunction (place : Place) : KindClass
  | .function p _ _ => p == place
  | _ => false

/-- A function or class that an `export` declares. -/
def isExported (k : Kind) : Bool := k.isFunction .export || k == .classDefinition .export

def isInterfaceName (k : Kind) : Bool := k.isPlainName || k.isStringLiteral

/-- What stands in `export` with names of its own. -/
def isExportedPart (k : Kind) : Bool :=
  k == .specifier || k.isStringLiteral || k == .attribute || k.isDeclaration || k.isExported

def isCatchClause : KindClass
  | .catchClause _ => true
  | _ => false

def isProperty : KindClass
  | .property .. => true
  | _ => false

def isTargetProperty : KindClass
  | .targetProperty .. => true
  | _ => false

def isPatternProperty : KindClass
  | .patternProperty .. => true
  | _ => false

def isRest (place : DotsPlace) (k : Kind) : Bool := k == .rest place

def isSpread (place : DotsPlace) (k : Kind) : Bool := k == .spread place

theorem isExpression_of_isPlainName {k : Kind} (h : k.isPlainName = true) :
    k.isExpression = true := by
  cases k <;> first | rfl | cases h

theorem isOperand_of_isExpression {k : Kind} (h : k.isExpression = true) :
    k.isOperand = true := by
  rw [isOperand, h, Bool.true_or]

theorem isPattern_of_isPlainName {k : Kind} (h : k.isPlainName = true) : k.isPattern = true := by
  cases k <;> first | rfl | cases h

theorem isTarget_of_isPlainName {k : Kind} (h : k.isPlainName = true) : k.isTarget = true := by
  cases k <;> first | rfl | cases h

theorem isTarget_of_isSimpleTarget {k : Kind} (h : k.isSimpleTarget = true) :
    k.isTarget = true := by
  cases k <;> first | rfl | cases h

theorem isExpression_of_isStringLiteral {k : Kind} (h : k.isStringLiteral = true) :
    k.isExpression = true := by
  cases k <;> first | rfl | cases h

theorem isExpression_of_isNumberLiteral {k : Kind} (h : k.isNumberLiteral = true) :
    k.isExpression = true := by
  cases k <;> first | rfl | cases h

theorem isType_of_isStringLiteral {k : Kind} (h : k.isStringLiteral = true) :
    k.isType = true := by
  cases k <;> first | rfl | cases h

theorem isType_of_isNumberLiteral {k : Kind} (h : k.isNumberLiteral = true) :
    k.isType = true := by
  cases k <;> first | rfl | cases h

theorem isBindingElement_of_isPattern {k : Kind} (h : k.isPattern = true) :
    k.isBindingElement = true := by
  rw [isBindingElement, h, Bool.true_or]

theorem isTargetElement_of_isTarget {k : Kind} (h : k.isTarget = true) :
    k.isTargetElement = true := by
  rw [isTargetElement, h, Bool.true_or]

theorem isMemberKey_of_isExpression {k : Kind} (h : k.isExpression = true) :
    k.isMemberKey = true := by
  cases k <;> first | rfl | exact h

theorem isPlainStatement_of_isDeclaration {k : Kind} (h : k.isDeclaration = true) :
    k.isPlainStatement = true := by
  cases k <;> first | rfl | cases h

theorem isStatement_of_isPlainStatement {k : Kind} (h : k.isPlainStatement = true) :
    k.isStatement = true := by
  cases k <;> first | exact h | rfl

theorem isStatement_of_isDeclaration {k : Kind} (h : k.isDeclaration = true) :
    k.isStatement = true :=
  isStatement_of_isPlainStatement (isPlainStatement_of_isDeclaration h)

theorem notSpecifier_of_isStringLiteral {k : Kind} (h : k.isStringLiteral = true) :
    (k == .specifier) = false := by
  cases k <;> first | rfl | cases h

theorem isDecorator_of_isMemberKey {k : Kind} (h : k.isMemberKey = true) :
    k.isDecorator = false := by
  cases k <;> first | rfl | cases h

end Kind

/-! ## Content -/

/-- The parts of a node in order: any number of `before`, one of each of `first`, the beginning
of `optional`, and any number of `after`. -/
structure Content where
  before : KindClass := fun _ => false
  first : List KindClass := []
  optional : List KindClass := []
  after : KindClass := fun _ => false

namespace Content

def allowsOptional (after : KindClass) : List KindClass → List Kind → Bool
  | [], ks => ks.all after
  | _ :: _, [] => true
  | c :: cs, k :: ks => c k && allowsOptional after cs ks

def allowsFirst (optional : List KindClass) (after : KindClass) :
    List KindClass → List Kind → Bool
  | [], ks => allowsOptional after optional ks
  | _ :: _, [] => false
  | c :: cs, k :: ks => c k && allowsFirst optional after cs ks

def allows (c : Content) (ks : List Kind) : Bool :=
  allowsFirst c.optional c.after c.first (ks.dropWhile c.before)

def mentions (c : Content) (k : Kind) : Bool :=
  c.before k || c.first.any (· k) || c.optional.any (· k) || c.after k

theorem mentions_of_allowsOptional {after : KindClass} {cs : List KindClass} {ks : List Kind}
    (h : allowsOptional after cs ks = true) {k : Kind} (hk : k ∈ ks) :
    cs.any (· k) = true ∨ after k = true := by
  induction cs generalizing ks with
  | nil => exact .inr (List.all_eq_true.1 h k hk)
  | cons c cs ih =>
    cases ks with
    | nil => cases hk
    | cons a as =>
      simp only [allowsOptional, Bool.and_eq_true] at h
      rcases List.mem_cons.1 hk with rfl | hk
      · simp [h.1]
      · rcases ih h.2 hk with h' | h'
        · exact .inl (by simp only [List.any_cons, h', Bool.or_true])
        · exact .inr h'

theorem mentions_of_allowsFirst {optional : List KindClass} {after : KindClass}
    {cs : List KindClass} {ks : List Kind} (h : allowsFirst optional after cs ks = true)
    {k : Kind} (hk : k ∈ ks) :
    cs.any (· k) = true ∨ optional.any (· k) = true ∨ after k = true := by
  induction cs generalizing ks with
  | nil => exact .inr (mentions_of_allowsOptional h hk)
  | cons c cs ih =>
    cases ks with
    | nil => cases hk
    | cons a as =>
      simp only [allowsFirst, Bool.and_eq_true] at h
      rcases List.mem_cons.1 hk with rfl | hk
      · simp [h.1]
      · rcases ih h.2 hk with h' | h'
        · exact .inl (by simp only [List.any_cons, h', Bool.or_true])
        · exact .inr h'

theorem mentions_of_allows {c : Content} {ks : List Kind} (h : c.allows ks = true) {k : Kind}
    (hk : k ∈ ks) : c.mentions k = true := by
  rw [← List.takeWhile_append_dropWhile (p := c.before) (l := ks), List.mem_append] at hk
  rcases hk with hk | hk
  · simp [mentions, List.mem_takeWhile_imp hk]
  · rcases mentions_of_allowsFirst h hk with h' | h' | h' <;> simp [mentions, h']

end Content

namespace Kind

def content : Kind → Content
  | .program => { after := fun k => k == .hashbang || k.isStatement }
  | .hashbang | .emptyStatement | .debuggerStatement => {}
  | .directive => { first := [isStringLiteral] }
  | .expressionStatement | .throwStatement => { first := [isExpression] }
  | .block | .body | .staticBlock => { after := isStatement }
  | .ifStatement => { first := [isExpression, isStatement], optional := [isStatement] }
  | .doLoop => { first := [isStatement, isExpression] }
  | .whileLoop | .withStatement => { first := [isExpression, isStatement] }
  | .forLoop => { after := fun k => k.isExpression || k.isStatement }
  | .forIn | .forOf _ =>
    { first := [fun k => k.isDeclaration || k.isTarget, isExpression, isStatement] }
  | .jump => { optional := [isPlainName] }
  | .switchStatement => { first := [isExpression], after := (· == .switchCase) }
  | .switchCase => { optional := [fun k => k.isExpression || k.isStatement], after := isStatement }
  | .tryStatement =>
    { first := [(· == .block)], after := fun k => k.isCatchClause || k == .block }
  | .catchClause bound => { first := if bound then [isPattern, (· == .block)] else [(· == .block)] }
  | .labelled => { first := [isPlainName, isStatement] }
  | .returnStatement => { optional := [isExpression] }
  | .declaration _ => { after := (· == .declarator) }
  | .declarator => { first := [isPattern], optional := [isExpression] }
  | .function .. => { before := isPlainName, first := [(· == .parameters), (· == .body)] }
  | .arrow _ => { first := [(· == .parameters), (· == .body)] }
  | .parameters => { after := fun k => k == .parameter || k.isRest .parameters }
  | .parameter => { first := [isBindingElement], after := isDecorator }
  | .classDefinition _ =>
    { after := fun k => k.isDecorator || k.isExpression || k.isType || k.isClassMember }
  | .method => { before := isDecorator, first := [isMemberKey, isFunction .method] }
  | .field | .accessorField =>
    { before := isDecorator, first := [isMemberKey], optional := [isExpression] }
  | .decorator => { first := [isExpression] }
  | .name _ | .privateName _ | .string _ | .number _ | .bigint _ | .regex _ | .constant => {}
  | .template _ => { after := fun k => k == .templateText || k.isExpression }
  | .templateText | .hole => {}
  | .taggedTemplate => { first := [isOperand, (· == .template true)] }
  | .array _ => { after := fun k => k == .hole || k.isSpread .arrayElement || k.isExpression }
  | .spread _ => { first := [isExpression] }
  | .object => { after := fun k => k.isProperty || k.isSpread .objectProperty }
  | .property _ _ shorthand =>
    if shorthand then { first := [isPlainName], optional := [(· == .assignment "=")] }
    else { first := [isExpression, isExpression] }
  | .unary | .await | .parenthesized => { first := [isExpression] }
  | .update => { first := [isSimpleTarget] }
  | .binary _ | .logical _ => { first := [isExpression, isExpression] }
  | .conditional => { first := [isExpression, isExpression, isExpression] }
  | .assignment _ => { first := [isTarget, isExpression] }
  | .sequence => { after := isExpression }
  | .call _ => { first := [isOperand], after := fun k => k.isSpread .argument || k.isExpression }
  | .newCall =>
    { first := [isExpression], after := fun k => k.isSpread .argument || k.isExpression }
  | .member => { first := [isOperand, isMemberKey] }
  | .chain => { first := [isOperand] }
  | .metaProperty => { first := [isPlainName, isPlainName] }
  | .superWord => {}
  | .importCall => { first := [isExpression], optional := [isExpression] }
  | .yield => { optional := [isExpression] }
  | .privateIn => { first := [isMemberKey, isExpression] }
  | .objectPattern => { after := fun k => k.isPatternProperty || k.isRest .objectPattern }
  | .patternProperty .. => { first := [isExpression, isBindingElement] }
  | .arrayPattern =>
    { after := fun k => k == .hole || k.isBindingElement || k.isRest .arrayPattern }
  | .defaulted => { first := [isPattern, isExpression] }
  | .rest _ => { first := [fun k => k.isBindingElement || k.isTarget] }
  | .objectTarget => { after := fun k => k.isTargetProperty || k.isRest .objectTarget }
  | .targetProperty _ shorthand =>
    if shorthand then { first := [isPlainName], optional := [isExpression] }
    else { first := [isExpression, isTargetElement] }
  | .arrayTarget =>
    { after := fun k => k == .hole || k.isTargetElement || k.isRest .arrayTarget }
  | .defaultedTarget => { first := [isTarget, isExpression] }
  | .type => { after := fun k => k.isType || k.isExpression || k == .parameters }
  | .bigintType _ | .templateType => {}
  | .importDeclaration =>
    { before := (· == .specifier), first := [isStringLiteral], after := (· == .attribute) }
  | .exportNamed => { after := isExportedPart }
  | .exportDefault => { first := [isPlainName, fun k => k.isExpression || k.isExported] }
  | .exportAll =>
    { first := [isInterfaceName], after := fun k => k.isStringLiteral || k == .attribute }
  | .specifier => { first := [isInterfaceName], optional := [isInterfaceName] }
  | .attribute => { first := [isInterfaceName, isStringLiteral] }

end Kind

/-! ## Well-formed trees -/

namespace Tree

def WellFormed (t : Tree) : Prop :=
  ∀ n ∈ t.nodes, n.kind.content.allows (n.parts.map kind) = true

theorem wellFormed_node {k : Kind} {s e : Nat} {ps : List Tree} :
    WellFormed (.node k s e ps) ↔
      k.content.allows (ps.map kind) = true ∧ ∀ p ∈ ps, p.WellFormed := by
  constructor
  · intro h
    refine ⟨h _ (self_mem_nodes _), fun p hp n hn => h n ?_⟩
    rw [nodes, nodesOfAll_eq_flatMap]
    exact List.mem_cons_of_mem _ (List.mem_flatMap.2 ⟨p, hp, hn⟩)
  · rintro ⟨h, hps⟩ n hn
    rw [nodes, nodesOfAll_eq_flatMap] at hn
    rcases List.mem_cons.1 hn with rfl | hn
    · exact h
    · obtain ⟨p, hp, hn⟩ := List.mem_flatMap.1 hn
      exact hps p hp n hn

structure IsA (t : Tree) (c : KindClass) : Prop where
  wellFormed : t.WellFormed
  kind : c t.kind = true

theorem IsA.weaken {t : Tree} {c d : KindClass} (h : t.IsA c)
    (hcd : ∀ k, c k = true → d k = true) : t.IsA d :=
  ⟨h.wellFormed, hcd _ h.kind⟩

theorem isName_iff {t : Tree} : t.isName = true ↔ t.kind.isPlainName = true := by
  cases hk : t.kind <;> simp [isName, Kind.isPlainName, hk]

theorem IsA.ofName {t : Tree} {c d : KindClass} (h : t.IsA c) (hname : t.isName = true)
    (hd : ∀ {k : Kind}, k.isPlainName = true → d k = true) : t.IsA d :=
  ⟨h.wellFormed, hd (isName_iff.1 hname)⟩

def AllAre (ts : List Tree) (c : KindClass) : Prop :=
  ∀ t ∈ ts, t.IsA c

theorem AllAre.weaken {ts : List Tree} {c d : KindClass} (h : AllAre ts c)
    (hcd : ∀ k, c k = true → d k = true) : AllAre ts d :=
  fun t ht => (h t ht).weaken hcd

theorem AllAre.nil {c : KindClass} : AllAre [] c :=
  nofun

theorem AllAre.singleton {t : Tree} {c : KindClass} (h : t.IsA c) : AllAre [t] c :=
  List.forall_mem_singleton.2 h

theorem AllAre.cons {t : Tree} {ts : List Tree} {c : KindClass} (ht : t.IsA c)
    (hts : AllAre ts c) : AllAre (t :: ts) c :=
  List.forall_mem_cons.2 ⟨ht, hts⟩

theorem AllAre.append {ts us : List Tree} {c : KindClass} (hts : AllAre ts c)
    (hus : AllAre us c) : AllAre (ts ++ us) c :=
  List.forall_mem_append.2 ⟨hts, hus⟩

end Tree

namespace Content

open PluginAudit.Script.Tree

structure Fits (c : Content) (ps : List Tree) : Prop where
  wellFormed : ∀ p ∈ ps, p.WellFormed
  allows : c.allows (ps.map kind) = true

namespace Fits

variable {b c a : KindClass} {cs os : List KindClass} {p : Tree} {ps ds : List Tree}

theorem dropWhile_never (ks : List Kind) : ks.dropWhile (fun _ => false) = ks := by
  cases ks <;> rfl

theorem after (h : AllAre ps a) : Fits { after := a } ps := by
  refine ⟨fun p hp => (h p hp).wellFormed, ?_⟩
  rw [Content.allows, dropWhile_never]
  refine List.all_eq_true.2 fun k hk => ?_
  obtain ⟨p, hp, rfl⟩ := List.mem_map.1 hk
  exact (h p hp).kind

theorem none : Fits {} [] :=
  after nofun

theorem noOptional : Fits { optional := os, after := a } [] := by
  refine ⟨nofun, ?_⟩
  cases os <;> rfl

theorem optional (hp : p.IsA c) (h : Fits { optional := os, after := a } ps) :
    Fits { optional := c :: os, after := a } (p :: ps) := by
  refine ⟨List.forall_mem_cons.2 ⟨hp.wellFormed, h.wellFormed⟩, ?_⟩
  have hps := h.allows
  rw [Content.allows, dropWhile_never] at hps ⊢
  exact Bool.and_eq_true_iff.2 ⟨hp.kind, hps⟩

theorem first (hp : p.IsA c) (h : Fits { first := cs, optional := os, after := a } ps) :
    Fits { first := c :: cs, optional := os, after := a } (p :: ps) := by
  refine ⟨List.forall_mem_cons.2 ⟨hp.wellFormed, h.wellFormed⟩, ?_⟩
  have hps := h.allows
  rw [Content.allows, dropWhile_never] at hps ⊢
  exact Bool.and_eq_true_iff.2 ⟨hp.kind, hps⟩

/-- What may stand before is told apart from the first part after it. -/
theorem before (hds : AllAre ds b) (hp : b p.kind = false)
    (h : Fits { first := cs, optional := os, after := a } (p :: ps)) :
    Fits { before := b, first := cs, optional := os, after := a } (ds ++ p :: ps) := by
  refine ⟨List.forall_mem_append.2 ⟨fun d hd => (hds d hd).wellFormed, h.wellFormed⟩, ?_⟩
  have hps := h.allows
  rw [Content.allows, dropWhile_never] at hps
  have hdrop : ((ds ++ p :: ps).map kind).dropWhile b = (p :: ps).map kind := by
    rw [List.map_append, List.dropWhile_append_of_pos, List.map_cons, List.dropWhile_cons_of_neg]
    · exact Bool.eq_false_iff.1 hp
    · intro k hk
      obtain ⟨d, hd, rfl⟩ := List.mem_map.1 hk
      exact (hds d hd).kind
  rw [Content.allows, hdrop]
  exact hps

theorem of_cons (h : Fits { first := c :: cs, optional := os, after := a } (p :: ps)) :
    p.IsA c ∧ Fits { first := cs, optional := os, after := a } ps := by
  have hallows := h.allows
  rw [Content.allows, dropWhile_never] at hallows
  obtain ⟨hp, hps⟩ := Bool.and_eq_true_iff.1 hallows
  obtain ⟨hpw, hpsw⟩ := List.forall_mem_cons.1 h.wellFormed
  refine ⟨⟨hpw, hp⟩, hpsw, ?_⟩
  rw [Content.allows, dropWhile_never]
  exact hps

theorem exists_first (h : Fits { first := c :: cs, optional := os, after := a } ps) :
    ∃ p qs, ps = p :: qs ∧ p.IsA c ∧ Fits { first := cs, optional := os, after := a } qs := by
  cases ps with
  | nil =>
    have hnil := h.allows
    rw [Content.allows, dropWhile_never] at hnil
    cases hnil
  | cons p qs => exact ⟨p, qs, rfl, h.of_cons⟩

theorem eq_first (h : Fits { first := c :: cs, optional := os, after := a } ps) (hp : p ∈ ps)
    (hrest : ({ first := cs, optional := os, after := a } : Content).mentions p.kind = false) :
    ∃ qs, ps = p :: qs ∧ c p.kind = true := by
  obtain ⟨q, qs, rfl, hq, hqs⟩ := h.exists_first
  rcases List.mem_cons.1 hp with rfl | hp
  · exact ⟨qs, rfl, hq.kind⟩
  · rw [mentions_of_allows hqs.allows (List.mem_map_of_mem hp)] at hrest
    cases hrest

theorem eq_nil_or_optional (h : Fits { optional := c :: os, after := a } ps) :
    ps = [] ∨ ∃ p qs, ps = p :: qs ∧ p.IsA c ∧ Fits { optional := os, after := a } qs := by
  have hps := h.allows
  rw [Content.allows, dropWhile_never] at hps
  cases ps with
  | nil => exact .inl rfl
  | cons p qs =>
    obtain ⟨hp, hqs⟩ := Bool.and_eq_true_iff.1 hps
    obtain ⟨hpw, hqw⟩ := List.forall_mem_cons.1 h.wellFormed
    refine .inr ⟨p, qs, rfl, ⟨hpw, hp⟩, hqw, ?_⟩
    rw [Content.allows, dropWhile_never]
    exact hqs

theorem all_after (h : Fits { after := a } ps) : AllAre ps a := by
  have hps := h.allows
  rw [Content.allows, dropWhile_never] at hps
  exact fun p hp => ⟨h.wellFormed p hp, List.all_eq_true.1 hps _ (List.mem_map_of_mem hp)⟩

theorem eq_nil (h : Fits {} ps) : ps = [] := by
  cases ps with
  | nil => rfl
  | cons p ps => cases (h.all_after p (List.mem_cons_self ..)).kind

end Fits

end Content

theorem Tree.WellFormed.fits {t : Tree} (h : t.WellFormed) : t.kind.content.Fits t.parts := by
  cases t
  obtain ⟨hallows, hparts⟩ := wellFormed_node.1 h
  exact ⟨hparts, hallows⟩

theorem Tree.IsA.node {k : Kind} {start stop : Nat} {ps : List Tree} {c : KindClass}
    (h : k.content.Fits ps) (hc : c k = true) : (Tree.node k start stop ps).IsA c :=
  ⟨wellFormed_node.2 ⟨h.allows, h.wellFormed⟩, hc⟩

end PluginAudit.Script
