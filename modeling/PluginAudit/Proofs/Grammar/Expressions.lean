import PluginAudit.Proofs.Grammar.Classes
import PluginAudit.Script.Grammar.Expressions

/-!
# Reading expressions
-/

namespace PluginAudit.Script

open Kind PluginAudit.Script.Tree

/-- An operand is an expression, unless `?.` stands in it and it ends in a call. -/
structure Grammar.Operand.Sound (o : Grammar.Operand) : Prop where
  isA : o.tree.IsA isOperand
  expression : o.chained = false → o.tree.kind.isExpression = true

theorem Grammar.Operand.Sound.ofExpression {o : Grammar.Operand} (h : o.tree.IsA isExpression) :
    o.Sound :=
  ⟨h.weaken fun _ => isOperand_of_isExpression, fun _ => h.kind⟩

namespace Reads

variable {x : Bool} {rules : Rules}

/-! ## Literals -/

theorem spread (h : rules.Sound) (place : DotsPlace) :
    Reads x (Grammar.spread rules place) (·.IsA (isSpread place)) := by
  refine start.seq fun _ => (expect _).seq fun _ => h.assignment.bind fun e he => ?_
  exact node (k := .spread place) (.first he .none) (beq_self_eq_true _)

theorem arrayElement (h : rules.Sound) : Reads x (Grammar.arrayElement rules)
    (·.IsA fun k => k == .hole || k.isSpread .arrayElement || k.isExpression) := by
  refine cur.seq fun t => ite (fun _ => pure (.node .none rfl)) fun _ => ?_
  refine ite (fun _ => ?_) fun _ => ?_
  · exact (spread h _).mono fun s hs => hs.weaken fun k hk => by
      rw [hk, Bool.or_true, Bool.true_or]
  · exact h.assignment.mono fun e he => he.weaken fun k hk => by rw [hk, Bool.or_true]

theorem arrayLiteral (h : rules.Sound) :
    Reads x (Grammar.arrayLiteral rules) (·.IsA isExpression) := by
  refine start.seq fun _ => (expect _).seq fun _ => (list (arrayElement h)).withIn.bind
    fun items hitems => cur.seq fun _ => (eat _).seq fun trailing => (expect _).seq fun _ => ?_
  exact node (.after hitems) rfl

theorem shorthandProperty (h : rules.Sound) :
    Reads x (Grammar.shorthandProperty rules) (·.IsA isProperty) := by
  refine start.seq fun start => variableName.bind fun name hname => (eat _).seq fun _ =>
    ite (fun _ => ?_) fun _ => node (.first hname .noOptional) rfl
  refine h.assignment.bind fun value hvalue => seq ?_ fun _ => ?_
  · exact modifies (fun _ => rfl) (fun _ => rfl) (fun _ => rfl) fun _ _ _ => rfl
  · have htarget := hname.weaken fun _ => isTarget_of_isPlainName
    refine (node (k := .assignment "=") (c := (· == .assignment "="))
      (.first htarget (.first hvalue .none)) rfl).bind fun default hdefault => ?_
    exact node (.first hname (.optional hdefault .none)) rfl

theorem isExpression_of_isFunction {k : Kind} (h : k.isFunction .expression = true) :
    k.isExpression = true := by
  cases k <;> first | exact h | cases h

theorem methodProperty (h : rules.Sound) {form : PropertyForm} {start : Nat} {async : Bool} :
    Reads x (Grammar.methodProperty rules form start async) (·.IsA isProperty) := by
  unfold Grammar.methodProperty
  extract_lets withStar
  have hwithStar : ∀ generator, Reads x (withStar generator) (·.IsA isProperty) := by
    refine fun generator => (key h).bind fun k hk => (method h _ _ _).bind fun f hf => ?_
    exact node (.first hk (.first (hf.weaken fun _ => isExpression_of_isFunction) .none)) rfl
  clear_value withStar
  exact ite (fun _ => (eat _).seq hwithStar) fun _ => give (hwithStar _)

theorem property (h : rules.Sound) : Reads x (Grammar.property rules)
    (·.IsA fun k => k.isProperty || k.isSpread .objectProperty) := by
  refine cur.seq fun t => ite (fun _ => ?_) fun _ => peek.seq fun next => ?_
  · exact (spread h _).mono fun s hs => hs.weaken fun k hk => by rw [hk, Bool.or_true]
  extract_lets beforeKey
  have hproperty : ∀ {r : Reader Tree}, Reads x r (·.IsA isProperty) →
      Reads x r (·.IsA fun k => k.isProperty || k.isSpread .objectProperty) :=
    fun hr => hr.mono fun p hp => hp.weaken fun k hk => by rw [hk, Bool.true_or]
  refine ite (fun _ => advance.seq fun _ => hproperty (methodProperty h)) fun _ => ?_
  refine ite (fun _ => advance.seq fun _ => hproperty (methodProperty h)) fun _ => ?_
  refine ite (fun _ => advance.seq fun _ => hproperty (methodProperty h)) fun _ => ?_
  refine ite (fun _ => hproperty (methodProperty h)) fun _ => ?_
  refine ite (fun _ => hproperty (shorthandProperty h)) fun _ => hproperty ?_
  refine (key h).bind fun k hk => (eat _).seq fun _ => ite (fun _ => ?_) fun _ => ?_
  · exact h.assignment.bind fun value hvalue => node (.first hk (.first hvalue .none)) rfl
  · refine (at_ _).seq fun _ => (at_ _).seq fun _ => (at_ _).seq fun _ => ite (fun _ => ?_)
      fun _ => unexpected
    apply (method h _ _ _).bind
    intro f hf
    exact node (.first hk (.first (hf.weaken fun _ => isExpression_of_isFunction) .none)) rfl

theorem objectLiteral (h : rules.Sound) :
    Reads x (Grammar.objectLiteral rules) (·.IsA isExpression) := by
  refine start.seq fun _ => (expect _).seq fun _ => (list (property h)).withIn.bind
    fun items hitems => (eat _).seq fun _ => (expect _).seq fun _ => node (.after hitems) rfl

/-! ## Templates -/

def isTemplatePart (k : Kind) : Bool := k == .templateText || k.isExpression

theorem isTemplatePart_of_text {k : Kind} (h : (k == .templateText) = true) :
    isTemplatePart k = true := by
  rw [isTemplatePart, h, Bool.true_or]

theorem isTemplatePart_of_isExpression {k : Kind} (h : k.isExpression = true) :
    isTemplatePart k = true := by
  rw [isTemplatePart, h, Bool.or_true]

theorem templatePiece (tagged : Bool) :
    Reads x (Grammar.templatePiece tagged) (·.IsA (· == .templateText)) := by
  refine cur.seq fun t => advance.seq fun _ => ?_
  extract_lets finish
  have hfinish : Reads x (finish ()) (·.IsA (· == .templateText)) := pure (.node .none rfl)
  clear_value finish
  exact ite (fun _ => (complain _ _).seq fun _ => hfinish) fun _ => hfinish

theorem substitution (h : rules.Sound) :
    Reads x (Grammar.substitution rules) (·.IsA isExpression) := by
  refine (expression h).withIn.bind fun e he => (at_ _).seq fun _ => ?_
  extract_lets finish
  have hfinish : Reads x (finish ()) (·.IsA isExpression) := pure he
  clear_value finish
  exact ite (fun _ => (rescan _).seq fun _ => hfinish) fun _ => hfinish

theorem templateLiteral (h : rules.Sound) (tagged : Bool) :
    Reads x (Grammar.templateLiteral rules tagged) (·.IsA (· == .template tagged)) := by
  refine start.seq fun _ => curKind.seq fun _ => ?_
  extract_lets whole
  apply (templatePiece tagged).bind
  intro first hfirst
  have hpart : first.IsA isTemplatePart := hfirst.weaken fun _ => isTemplatePart_of_text
  refine ite (fun _ => node (.after (.singleton hpart)) (beq_self_eq_true _)) fun _ => ?_
  apply (substitution h).bind
  intro second hsecond
  have hparts : AllAre [second, first] isTemplatePart :=
    .cons (hsecond.weaken fun _ => isTemplatePart_of_isExpression) (.singleton hpart)
  refine (loop (Q := (AllAre · isTemplatePart)) (AllAre · isTemplatePart) hparts
    fun items hitems => ?_).bind fun all hall => node (.after hall) (beq_self_eq_true _)
  apply curKind.seq
  intro k
  have hpiece := (templatePiece (x := x) tagged).mono fun t ht =>
    ht.weaken fun _ => isTemplatePart_of_text
  split
  · exact start.seq fun _ => refuse _ _
  · exact hpiece.bind fun t ht => doneReversed (hitems.cons ht)
  · exact hpiece.bind fun t ht => againCons ht hitems
  · refine (substitution h).bind fun e he => againCons (he.weaken fun _ => ?_) hitems
    exact isTemplatePart_of_isExpression

theorem atTemplate : Passes x Grammar.atTemplate :=
  curKind.seq fun _ => pure trivial

/-! ## Operands -/

theorem taggedTemplate (h : rules.Sound) {start : Nat} {tag : Grammar.Operand}
    (htag : tag.tree.IsA isOperand) :
    Reads x (Grammar.taggedTemplate rules start tag) (·.tree.IsA isExpression) := by
  apply (templateLiteral h true).bind
  intro quasi hquasi
  extract_lets finish
  have hfinish : Reads x (finish ()) (·.tree.IsA isExpression) :=
    (node (k := .taggedTemplate) (.first htag (.first hquasi .none)) rfl).bind fun t ht => pure ht
  clear_value finish
  exact ite (fun _ => (complain _ _).seq fun _ => hfinish) fun _ => hfinish

theorem namedMember {start : Nat} {object : Grammar.Operand}
    (hobject : object.tree.IsA isOperand) :
    Reads x (Grammar.namedMember start object) (·.tree.IsA isExpression) := by
  refine advance.seq fun _ => curKind.seq fun _ => ?_
  extract_lets named
  have hnamed : ∀ name, name.IsA isMemberKey → Reads x (named name) (·.tree.IsA isExpression) :=
    fun name hname =>
      (node (k := .member) (.first hobject (.first hname .none)) rfl).bind fun t ht => pure ht
  clear_value named
  refine ite (fun _ => privateName.bind hnamed) fun _ => nameText.bind fun name hname => ?_
  have hkey := hname.weaken fun _ hk => isMemberKey_of_isExpression (isExpression_of_isPlainName hk)
  exact hnamed _ hkey

theorem computedMember (h : rules.Sound) {start : Nat} {object : Grammar.Operand}
    (hobject : object.tree.IsA isOperand) :
    Reads x (Grammar.computedMember rules start object) (·.tree.IsA isExpression) := by
  refine advance.seq fun _ => (expression h).withIn.bind fun index hindex => ?_
  apply (expect _).seq
  intro _
  have hkey := hindex.weaken fun _ => isMemberKey_of_isExpression
  exact (node (k := .member) (.first hobject (.first hkey .none)) rfl).bind fun t ht => pure ht

theorem memberRest (h : rules.Sound) {start : Nat} {object : Grammar.Operand}
    (hobject : object.Sound) :
    Reads x (Grammar.memberRest rules start object) Grammar.Operand.Sound := by
  refine context (fun _ _ => rfl) fun c => ?_
  extract_lets brackets
  refine loop Grammar.Operand.Sound hobject fun o ho => (at_ _).seq fun _ => ?_
  refine ite (fun _ => ?_) ?_
  · exact (namedMember ho.isA).bind fun o ho => again (.ofExpression ho)
  refine fun _ => (at_ _).seq fun _ => ite (fun _ => ?_) fun _ => ?_
  · extract_lets chained
    have hchained : chained.Sound := ⟨ho.isA, nofun⟩
    clear_value chained
    refine peek.seq fun next => ite (fun _ => advance.seq fun _ => ?_) fun _ => ite (fun _ => ?_) ?_
    · exact (computedMember h hchained.isA).bind fun o ho => again (.ofExpression ho)
    · exact (namedMember hchained.isA).bind fun o ho => again (.ofExpression ho)
    · exact fun _ => done hchained
  refine (at_ _).seq fun _ => ite (fun _ => ?_) fun _ => ?_
  · exact (computedMember h ho.isA).bind fun o ho => again (.ofExpression ho)
  refine atTemplate.seq fun _ => ite (fun _ => ?_) fun _ => done ho
  exact (taggedTemplate h ho.isA).bind fun o ho => again (.ofExpression ho)

def isArgument (k : Kind) : Bool := k.isSpread .argument || k.isExpression

theorem argumentsHere (h : rules.Sound) :
    Reads x (Grammar.argumentsHere rules) (AllAre · isArgument) := by
  refine (expect _).seq fun _ => (list (c := isArgument) ?_).bind fun items hitems =>
    (expect _).seq fun _ => pure hitems
  refine (at_ _).seq fun _ => ite (fun _ => ?_) fun _ => ?_
  · exact (spread h _).mono fun s hs => hs.weaken fun k hk => by rw [isArgument, hk, Bool.true_or]
  · exact h.assignment.mono fun e he => he.weaken fun k hk => by rw [isArgument, hk, Bool.or_true]

theorem arguments (h : rules.Sound) : Reads x (Grammar.arguments rules) (AllAre · isArgument) :=
  (argumentsHere h).within fun _ _ => rfl

theorem callRest (h : rules.Sound) {start : Nat} {callee : Grammar.Operand}
    (hcallee : callee.Sound) :
    Reads x (Grammar.callRest rules start callee) Grammar.Operand.Sound := by
  refine loop Grammar.Operand.Sound hcallee fun o ho => (memberRest h ho).bind fun o ho => ?_
  apply (eat _).seq
  intro optional
  extract_lets chained
  have hchained : chained.Sound :=
    ⟨ho.isA, fun hnot => ho.expression (Bool.or_eq_false_iff.1 hnot).1⟩
  have hoptional : chained.chained = false → optional = false :=
    fun hnot => (Bool.or_eq_false_iff.1 hnot).2
  clear_value chained
  apply atTemplate.seq
  intro _
  refine ite (fun _ => ?_) fun _ => (at_ _).seq fun _ => ite (fun _ => ?_) ?_
  · exact (taggedTemplate h hchained.isA).bind fun o ho => again (.ofExpression ho)
  · apply (arguments h).bind
    intro args hargs
    have hcall : isOperand (.call optional) = true := by cases optional <;> rfl
    refine (node (k := .call optional) (c := (· == .call optional))
      (.first hchained.isA (.after hargs)) (beq_self_eq_true _)).bind fun t ht => again ⟨?_, ?_⟩
    · exact ht.weaken fun k hk => eq_of_beq hk ▸ hcall
    · intro hnot
      have hkind : t.kind = .call optional := eq_of_beq ht.kind
      change t.kind.isExpression = true
      rw [hkind, hoptional hnot]
      rfl
  · exact fun _ => done hchained

theorem closeChain {o : Grammar.Operand} (h : o.Sound) :
    (Grammar.closeChain o).IsA isExpression := by
  rw [Grammar.closeChain]
  split
  · exact .node (.first h.isA .none) rfl
  · next hopen =>
    refine ⟨h.isA.wellFormed, ?_⟩
    cases hchained : o.chained with
    | false => exact h.expression hchained
    | true =>
      -- what is left open is no call
      rcases Bool.or_eq_true_iff.1 h.isA.kind with hkind | hkind
      · exact hkind
      · rw [hchained, Grammar.isMemberOrCall, eq_of_beq hkind] at hopen
        exact absurd rfl hopen

theorem operand (h : rules.Sound) : Reads x (Grammar.operand rules) (·.IsA isExpression) := by
  refine start.seq fun _ => h.primary.bind fun first hfirst => ?_
  have hcallee : (Grammar.Operand.mk first false).Sound := .ofExpression hfirst
  exact (callRest h hcallee).bind fun _ ho => pure (closeChain ho)

/-! ## Primary expressions -/

theorem metaProperty {start : Nat} {word : Tree} (hword : word.IsA isPlainName) :
    Reads x (Grammar.metaProperty start word) (·.IsA isExpression) := by
  refine (at_ _).seq fun _ => (at_ _).seq fun _ => ?_
  extract_lets named
  have hnamed : ∀ name, name.IsA isPlainName → Reads x (named name) (·.IsA isExpression) :=
    fun name hname => node (.first hword (.first hname .none)) rfl
  clear_value named
  exact ite (fun _ => wordLeaf.bind hnamed) fun _ => nameText.bind hnamed

theorem newExpression (h : rules.Sound) :
    Reads x (Grammar.newExpression rules) (·.IsA isExpression) := by
  refine start.seq fun _ => wordLeaf.bind fun word hword => (eat _).seq fun _ => ?_
  refine ite (fun _ => metaProperty hword) fun _ => ?_
  refine start.seq fun _ => h.primary.bind fun first hfirst => ?_
  have hobject : (Grammar.Operand.mk first false).Sound := .ofExpression hfirst
  refine (memberRest h hobject).bind fun callee hcallee => (at_ _).seq fun _ => ?_
  extract_lets withArguments
  have hwithArguments : ∀ args, AllAre args isArgument →
      Reads x (withArguments args) (·.IsA isExpression) := by
    intro args hargs
    unfold withArguments
    extract_lets finish
    have hfinish : Reads x (finish ()) (·.IsA isExpression) := by
      refine (node (k := .newCall) (c := isExpression) (.first (closeChain hcallee) (.after hargs))
        rfl).bind fun e he => ?_
      extract_lets last
      have hlast : Reads x (last ()) (·.IsA isExpression) := pure he
      clear_value last
      exact ite (fun _ => (complain _ _).seq fun _ => hlast) fun _ => hlast
    clear_value finish
    exact ite (fun _ => (complain _ _).seq fun _ => hfinish) fun _ => hfinish
  clear_value withArguments
  exact ite (fun _ => (argumentsHere h).withIn.bind hwithArguments) fun _ =>
    give (hwithArguments _ .nil)

theorem importExpression (h : rules.Sound) :
    Reads x (Grammar.importExpression rules) (·.IsA isExpression) := by
  refine start.seq fun _ => wordLeaf.bind fun word hword => (eat _).seq fun _ => ?_
  refine ite (fun _ => metaProperty hword) fun _ => (eat _).seq fun _ => ?_
  refine ite (fun _ => ?_) fun _ => unexpected
  refine h.assignment.withIn.bind fun source hsource => (eat _).seq fun more =>
    (at_ _).seq fun _ => ?_
  extract_lets withOptions
  have hwithOptions : ∀ options, Content.Fits { optional := [isExpression] } options →
      Reads x (withOptions options) (·.IsA isExpression) := fun options hoptions =>
    (eat _).seq fun _ => (expect _).seq fun _ => node (.first hsource hoptions) rfl
  clear_value withOptions
  refine ite (fun _ => ?_) fun _ => give (hwithOptions _ .noOptional)
  exact h.assignment.withIn.bind fun e he => give (hwithOptions _ (.optional he .none))

theorem parenthesizedExpression (h : rules.Sound) :
    Reads x (Grammar.parenthesizedExpression rules) (·.IsA isExpression) := by
  refine start.seq fun _ => (expect _).seq fun _ => ?_
  refine ((list h.assignment).within fun _ _ => rfl).bind fun items hitems => ?_
  extract_lets withInner
  have hwithInner : ∀ inner, inner.IsA isExpression →
      Reads x (withInner inner) (·.IsA isExpression) := fun inner hinner =>
    (expect _).seq fun _ => node (.first hinner .none) rfl
  clear_value withInner
  match items, hitems with
  | [], _ => exact (expect _).seq fun _ => (refuse _ _).never
  | [e], he => exact give (hwithInner e (he e (List.mem_singleton_self e)))
  | e :: e' :: es, hes =>
    exact (node (k := .sequence) (c := isExpression) (.after hes) rfl).bind hwithInner

theorem regexLiteral : Reads x Grammar.regexLiteral (·.IsA isExpression) := by
  intro s hs b fs hb
  have hlex : s.lex (Lexer.regex s.token) = ((Lexer.regex s.token s.scan).1,
      { s with scan := (Lexer.regex s.token s.scan).2 }) := rfl
  have hlex' : (s.relaxed b fs).lex (Lexer.regex (s.relaxed b fs).token) =
      ((Lexer.regex s.token s.scan).1,
        ReadState.relaxed { s with scan := (Lexer.regex s.token s.scan).2 } b fs) := rfl
  rw [Grammar.regexLiteral, get_bind_run, get_bind_run, hlex, hlex']
  rcases (Lexer.regex s.token s.scan).1 with _ | t
  · exact ⟨[], trivial, ReadState.Leads.refl hs rfl rfl, rfl⟩
  · have hleaf : Reads x (Reader.leaf (.regex t.raw)) (·.IsA isExpression) := leaf .none rfl
    obtain ⟨more, hgives, hleads, heq⟩ := hleaf
      { s with scan := (Lexer.regex s.token s.scan).2, token := t, ahead := [] } hs b fs hb
    exact ⟨more, hgives, ⟨hleads.tidy, hleads.allowReturn, hleads.faults⟩, heq⟩

theorem superWord : Reads x Grammar.superWord (·.IsA isExpression) := by
  refine (leaf (k := .superWord) (c := isExpression) .none rfl).bind fun e he => ?_
  refine (at_ _).seq fun _ => (at_ _).seq fun _ => (at_ _).seq fun _ => ?_
  extract_lets finish
  have hfinish : Reads x (finish ()) (·.IsA isExpression) := pure he
  clear_value finish
  exact ite (fun _ => (complain _ _).seq fun _ => hfinish) fun _ => hfinish

theorem isExpression_of_template {k : Kind} (h : (k == .template false) = true) :
    k.isExpression = true := by
  rw [eq_of_beq h]
  rfl

theorem isExpression_of_class {k : Kind} (h : (k == .classDefinition .expression) = true) :
    k.isExpression = true := by
  rw [eq_of_beq h]
  rfl

theorem primary (h : rules.Sound) : Reads x (Grammar.primary rules) (·.IsA isExpression) := by
  refine start.seq fun start => (decorators h).seq fun _ => atFunction.seq fun _ => ?_
  refine ite (fun _ => ?_) ?_
  · exact (functionFrom h _ _ _).mono fun f hf => hf.weaken fun _ => isExpression_of_isFunction
  refine fun _ => cur.seq fun t => ?_
  split
  · exact stringLiteral.mono fun s hs => hs.weaken fun _ => isExpression_of_isStringLiteral
  · exact numberLiteral.mono fun n hn => hn.weaken fun _ => isExpression_of_isNumberLiteral
  · exact (templateLiteral h _).mono fun t ht => ht.weaken fun _ => isExpression_of_template
  · exact (templateLiteral h _).mono fun t ht => ht.weaken fun _ => isExpression_of_template
  · exact regexLiteral
  · exact regexLiteral
  · exact arrayLiteral h
  · exact objectLiteral h
  · exact parenthesizedExpression h
  · exact leaf .none rfl
  · exact leaf .none rfl
  · exact leaf .none rfl
  · exact leaf .none rfl
  · exact (classFrom h _ _).mono fun c hc => hc.weaken fun _ => isExpression_of_class
  · exact newExpression h
  · exact superWord
  · exact importExpression h
  · exact variableName.mono fun n hn => hn.weaken fun _ => isExpression_of_isPlainName

/-! ## Operators -/

theorem atAwait : Passes x Grammar.atAwait := by
  refine (at_ _).seq fun _ => ite (fun _ => pure trivial) fun _ => peek.seq fun next => ?_
  refine ite (fun _ => pure trivial) fun _ => context (fun _ _ => rfl) fun c => ?_
  exact ite (fun _ => pure trivial) fun _ => ite (fun _ => pure trivial) fun _ => pure trivial

theorem atYield : Passes x Grammar.atYield := by
  refine (at_ _).seq fun _ => ite (fun _ => pure trivial) fun _ => peek.seq fun next => ?_
  refine ite (fun _ => pure trivial) fun _ => context (fun _ _ => rfl) fun c => ?_
  exact ite (fun _ => pure trivial) fun _ => pure trivial

theorem awaitExpression (h : rules.Sound) {outer : Nat} :
    Reads x (Grammar.awaitExpression rules outer) (·.IsA isExpression) := by
  refine start.seq fun _ => advance.seq fun _ => context (fun _ _ => rfl) fun c => ?_
  extract_lets finish
  have hfinish : Reads x (finish ()) (·.IsA isExpression) :=
    (h.unary.within fun _ _ => rfl).bind fun e he => node (.first he .none) rfl
  clear_value finish
  exact ite (fun _ => (complain _ _).seq fun _ => hfinish) fun _ => hfinish

theorem updateExpression (h : rules.Sound) {outer : Nat} :
    Reads x (Grammar.updateExpression rules outer) (·.IsA isExpression) := by
  apply cur.seq
  intro t
  refine ite (fun _ => advance.seq fun _ => h.unary.bind fun e he => ?_) fun _ => ?_
  · exact (simpleTarget he).bind fun e he => node (.first he .none) rfl
  · refine h.operand.bind fun e he => cur.seq fun next => ite (fun _ => ?_) fun _ => pure he
    exact advance.seq fun _ => (simpleTarget he).bind fun e he => node (.first he .none) rfl

theorem unary (h : rules.Sound) {outer : Nat} :
    Reads x (Grammar.unary rules outer) (·.IsA isExpression) := by
  refine cur.seq fun t => ite (fun _ => advance.seq fun _ => ?_) fun _ => atAwait.seq fun _ => ?_
  · exact h.unary.bind fun e he => node (.first he .none) rfl
  · exact ite (fun _ => awaitExpression h) fun _ => updateExpression h

theorem joinAngle : Passes x Grammar.joinAngle :=
  (at_ _).seq fun _ => ite (fun _ => rescan _) fun _ => pure trivial

theorem binaryRest (h : rules.Sound) {min start : Nat} {first : Tree}
    (hfirst : first.IsA isExpression) :
    Reads x (Grammar.binaryRest rules min start first) (·.IsA isExpression) := by
  refine loop (·.IsA isExpression) hfirst fun left hleft => joinAngle.seq fun _ => ?_
  apply cur.seq
  intro t
  split
  · exact done hleft
  · next p _ =>
    extract_lets binds sign kind
    refine context (fun _ _ => rfl) fun c => ite (fun _ => done hleft) fun _ => ?_
    apply advance.seq
    intro _
    apply h.binary.bind
    intro right hright
    have hnode : Reads x (Reader.node kind start [left, right]) (·.IsA isExpression) := by
      unfold kind
      split
      · exact node (.first hleft (.first hright .none)) rfl
      · exact node (.first hleft (.first hright .none)) rfl
    exact hnode.bind fun t ht => again ht

theorem binaryExpression (h : rules.Sound) {min : Nat} :
    Reads x (Grammar.binaryExpression rules min) (·.IsA isExpression) := by
  refine start.seq fun _ => context (fun _ _ => rfl) fun c => curKind.seq fun _ => ?_
  extract_lets more
  have hmore : ∀ first, first.IsA isExpression → Reads x (more first) (·.IsA isExpression) :=
    fun first hfirst => binaryRest h hfirst
  clear_value more
  refine ite (fun _ => privateName.bind fun name hname => (expect _).seq fun _ => ?_) fun _ => ?_
  · apply h.unary.bind
    intro right hright
    exact (node (k := .privateIn) (c := isExpression) (.first hname (.first hright .none)) rfl).bind
      hmore
  · exact h.unary.bind hmore

theorem conditionalRest (h : rules.Sound) {start : Nat} {test : Tree}
    (htest : test.IsA isExpression) :
    Reads x (Grammar.conditionalRest rules start test) (·.IsA isExpression) := by
  refine (eat _).seq fun _ => ite (fun _ => pure htest) fun _ => ?_
  refine h.assignment.withIn.bind fun yes hyes => (expect _).seq fun _ => ?_
  exact h.assignment.bind fun no hno => node (.first htest (.first hyes (.first hno .none))) rfl

/-! ## Assignments -/

theorem yieldExpression (h : rules.Sound) :
    Reads x (Grammar.yieldExpression rules) (·.IsA isExpression) := by
  refine start.seq fun _ => advance.seq fun _ => context (fun _ _ => rfl) fun c => ?_
  extract_lets operand
  have hoperand : Reads x (operand ()) (·.IsA isExpression) := by
    refine cur.seq fun next => ite (fun _ => node .noOptional rfl) fun _ => (eat _).seq fun _ => ?_
    refine atEnd.seq fun _ => curKind.seq fun _ => ?_
    extract_lets bare
    refine ite (fun _ => node .noOptional rfl) fun _ => ?_
    exact (h.assignment.within fun _ _ => rfl).bind fun e he => node (.optional he .none) rfl
  clear_value operand
  exact ite (fun _ => (complain _ _).seq fun _ => hoperand) fun _ => hoperand

theorem assignmentExpression (h : rules.Sound) :
    Reads x (Grammar.assignmentExpression rules) (·.IsA isExpression) := by
  refine atYield.seq fun _ => ite (fun _ => yieldExpression h) fun _ => ?_
  apply (parenthesizedArrow h).bind
  intro arrow harrow
  cases arrow with
  | some arrow => exact pure (harrow arrow (List.mem_singleton_self arrow))
  | none =>
    refine start.seq fun start => atAsyncName.seq fun _ => ite (fun _ => advance.seq fun _ => ?_) ?_
    · apply h.binary.bind
      intro name hname
      extract_lets finish
      have hfinish : name.isName = true → Reads x (finish ()) (·.IsA isExpression) :=
        fun hn => arrowAfterName h (hname.ofName hn id)
      clear_value finish
      refine ite (fun _ => unexpected.never) fun hn => hfinish ?_
      simpa using hn
    · refine fun _ => h.binary.bind fun left hleft => (at_ _).seq fun _ => ?_
      refine ite (fun hn => ?_) fun _ => ?_
      · exact arrowAfterName h (hleft.ofName (Bool.and_eq_true_iff.1 hn).1 id)
      · refine cur.seq fun t => ite (fun _ => ?_) fun _ => conditionalRest h hleft
        refine (assignmentTarget hleft).bind fun left hleft => advance.seq fun _ => ?_
        exact h.assignment.bind fun right hright => node (.first hleft (.first hright .none)) rfl

end Reads

end PluginAudit.Script
