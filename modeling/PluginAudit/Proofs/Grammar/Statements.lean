import PluginAudit.Proofs.Grammar.Expressions
import PluginAudit.Script.Grammar.Statements

/-!
# Reading statements

Only here may a reader be exposed to whether `return` is permitted.
-/

namespace PluginAudit.Script

open Kind PluginAudit.Script.Tree

namespace Reads

variable {x : Bool} {rules : Rules}

theorem orRefuse {r : Reader α} {Q : α → Prop} (h : Reads x r Q) (f : Fault) (offset : Nat) :
    Reads x (Grammar.orRefuse r f offset) Q := by
  intro s hs b fs hb
  obtain ⟨more, hgives, hleads, heq⟩ := h s hs b fs hb
  refine ⟨more, ?_⟩
  rw [Grammar.orRefuse, Grammar.orRefuse, heq]
  rcases hr : r s with ⟨a, t⟩ | ⟨_ | _, t⟩
  · rw [hr] at hgives hleads
    exact ⟨hgives, hleads, rfl⟩
  · rw [hr] at hleads
    exact ⟨trivial, hleads, rfl⟩
  · rw [hr] at hleads
    exact ⟨trivial, hleads, rfl⟩

theorem bodyStatement (h : rules.Sound) :
    Reads true (Grammar.bodyStatement rules) (·.IsA isStatement) :=
  h.statement

theorem sequenceUntil {stop : TokenKind → Bool} {element : Reader Tree} {c : KindClass}
    (h : Reads x element (·.IsA c)) :
    Reads x (Grammar.sequenceUntil stop element) (AllAre · c) := by
  refine loop (AllAre · c) .nil fun items hitems => curKind.seq fun k => ?_
  exact ite (fun _ => doneReversed hitems) fun _ => h.bind fun t ht => againCons ht hitems

theorem block (h : rules.Sound) : Reads true (Grammar.block rules) (·.IsA (· == .block)) :=
  start.seq fun _ => (expect _).seq fun _ => (sequenceUntil h.statement).bind fun _ hitems =>
    (expect _).seq fun _ => node (.after hitems) rfl

theorem expressionStatement {start : Nat} {e : Tree} (he : e.IsA isExpression) :
    Reads x (Grammar.expressionStatement start e) (·.IsA isPlainStatement) :=
  semicolon.seq fun _ => node (.first he .none) rfl

/-! ## Declarations -/

theorem declarator (h : rules.Sound) (word : DeclarationWord) (place : Grammar.DeclarationPlace) :
    Reads x (Grammar.declarator rules word place) (·.IsA (· == .declarator)) := by
  refine start.seq fun _ => h.pattern.bind fun id hid => (eat _).seq fun _ => ?_
  refine ite (fun _ => ?_) fun _ => ?_
  · exact h.assignment.bind fun value hvalue => node (.first hid (.optional hvalue .none)) rfl
  · extract_lets finish
    have hfinish : Reads x (finish ()) (·.IsA (· == .declarator)) :=
      node (.first hid .noOptional) rfl
    clear_value finish
    refine ite (fun _ => (forIn_option fun f _ => ?_).seq fun _ => hfinish) fun _ => hfinish
    exact (complain _ _).seq fun _ => pure trivial

theorem commaSeparated {element : Reader Tree} {c : KindClass} (h : Reads x element (·.IsA c)) :
    Reads x (Grammar.commaSeparated element) (AllAre · c) := by
  refine h.bind fun first hfirst => loop (AllAre · c) (.singleton hfirst) fun items hitems => ?_
  refine (eat _).seq fun _ => ite (fun _ => ?_) fun _ => doneReversed hitems
  exact h.bind fun t ht => againCons ht hitems

theorem declaration (h : rules.Sound) (place : Grammar.DeclarationPlace) (start : Nat) :
    Reads x (Grammar.declaration rules place start) (·.IsA isDeclaration) := by
  apply curKind.seq
  intro k
  split
  · next word _ =>
    apply advance.seq
    intro _
    apply (commaSeparated (declarator h word place)).bind
    intro items hitems
    extract_lets finish checked
    have hfinish : Reads x (finish ()) (·.IsA isDeclaration) := node (.after hitems) rfl
    have hchecked : Reads x (checked ()) (·.IsA isDeclaration) :=
      ite (fun _ => (complain _ _).seq fun _ => hfinish) fun _ => hfinish
    clear_value finish checked
    exact ite (fun _ => semicolon.seq fun _ => hchecked) fun _ => hchecked
  · exact unexpected

theorem usingDeclaration (h : rules.Sound) (inLoop : Bool) :
    Reads x (Grammar.usingDeclaration rules inLoop) (·.IsA isDeclaration) := by
  refine start.seq fun _ => (eat _).seq fun isAwait => (expect _).seq fun _ => ?_
  apply cur.seq
  intro first
  extract_lets word declared named
  have hdeclared : Reads x (declared ()) (·.IsA isDeclaration) := by
    refine (commaSeparated (c := (· == .declarator)) ?_).bind fun items hitems =>
      node (.after hitems) rfl
    refine (declarator h word _).bind fun d hd => (forIn_option fun id _ => ?_).seq fun _ => pure hd
    extract_lets valued
    have hvalued : Passes x (valued ()) :=
      ite (fun _ => (complain _ _).seq fun _ => pure trivial) fun _ => pure trivial
    clear_value valued
    exact ite (fun _ => (complain _ _).seq fun _ => hvalued) fun _ => hvalued
  have hnamed : Reads x (named ()) (·.IsA isDeclaration) :=
    ite (fun _ => (complain _ _).seq fun _ => advance.seq fun _ => hdeclared) fun _ => hdeclared
  clear_value declared named
  exact ite (fun _ => (complain _ _).seq fun _ => hnamed) fun _ => hnamed

theorem usingStatement (h : rules.Sound) :
    Reads x (Grammar.usingStatement rules) (·.IsA isPlainStatement) := by
  refine (usingDeclaration h false).bind fun d hd => semicolon.seq fun _ => ?_
  exact node hd.wellFormed.fits (isPlainStatement_of_isDeclaration hd.kind)

theorem atUsing : Passes x Grammar.atUsing := by
  refine (at_ _).seq fun _ => ite (fun _ => peekKind.seq fun _ => pure trivial) fun _ => ?_
  refine ((at_ _).andM (peekAt _)).seq fun _ => ite (fun _ => ?_) fun _ => pure trivial
  exact peekSecond.seq fun _ => pure trivial

theorem letStatement (h : rules.Sound) (inBody : Bool) :
    Reads x (Grammar.letStatement rules inBody) (·.IsA isPlainStatement) := by
  refine start.seq fun _ => peekKind.seq fun next => ite (fun _ => ?_) fun _ => ite (fun _ => ?_) ?_
  · exact h.assignment.bind fun e he => expressionStatement he
  · exact (expression h).bind fun e he => node (.first he .none) rfl
  · refine fun _ => ite (fun _ => variableName.bind fun n hn => ?_) fun _ => ?_
    · exact expressionStatement (hn.weaken fun _ => isExpression_of_isPlainName)
    · refine (declaration h _ _).mono fun d hd => ?_
      exact hd.weaken fun _ => isPlainStatement_of_isDeclaration

theorem isPlainStatement_of_isFunction {k : Kind} (h : k.isFunction .statement = true) :
    k.isPlainStatement = true := by
  cases k <;> first | exact h | cases h

theorem functionStatement (h : rules.Sound) (inBody : Bool) :
    Reads x (Grammar.functionStatement rules inBody) (·.IsA isPlainStatement) := by
  refine start.seq fun start => (functionFrom h .statement true start).bind fun f hf => ?_
  extract_lets finish
  have hfinish : Reads x (finish ()) (·.IsA isPlainStatement) :=
    pure (hf.weaken fun _ => isPlainStatement_of_isFunction)
  clear_value finish
  refine ite (fun _ => ?_) fun _ => hfinish
  split
  · exact (complain _ _).seq fun _ => hfinish
  · exact (complain _ _).seq fun _ => hfinish
  · exact hfinish

theorem classStatement (h : rules.Sound) (inBody : Bool) (start : Nat) :
    Reads x (Grammar.classStatement rules inBody start) (·.IsA isPlainStatement) := by
  apply (classFrom h .statement start).bind
  intro c hc
  extract_lets finish
  have hfinish : Reads x (finish ()) (·.IsA isPlainStatement) :=
    pure (hc.weaken fun k hk => by rw [eq_of_beq hk]; rfl)
  clear_value finish
  exact ite (fun _ => (complain _ _).seq fun _ => hfinish) fun _ => hfinish

/-! ## Branches and jumps -/

theorem ifStatement (h : rules.Sound) :
    Reads true (Grammar.ifStatement rules) (·.IsA isStatement) := by
  refine start.seq fun _ => advance.seq fun _ => (condition h).bind fun test htest => ?_
  refine (bodyStatement h).bind fun yes hyes => (eat _).seq fun _ => ?_
  extract_lets withElse
  have hwithElse : ∀ no, Content.Fits { optional := [isStatement] } no →
      Reads true (withElse no) (·.IsA isStatement) :=
    fun no hno => node (.first htest (.first hyes hno)) rfl
  clear_value withElse
  refine ite (fun _ => ?_) fun _ => give (hwithElse _ .noOptional)
  exact (bodyStatement h).bind fun s hs => give (hwithElse _ (.optional hs .none))

theorem caseTest (h : rules.Sound) : Reads x (Grammar.caseTest rules)
    fun ts => ts = [] ∨ ∃ t, ts = [t] ∧ t.IsA isExpression := by
  refine (eat _).seq fun _ => ite (fun _ => pure (.inl rfl)) fun _ => (eat _).seq fun _ => ?_
  extract_lets test
  have htest : Reads x (test ()) fun ts => ts = [] ∨ ∃ t, ts = [t] ∧ t.IsA isExpression :=
    (expression h).bind fun t ht => pure (.inr ⟨t, rfl, ht⟩)
  clear_value test
  exact ite (fun _ => unexpected.never) fun _ => htest

theorem switchCase (h : rules.Sound) :
    Reads true (Grammar.switchCase rules) (·.IsA (· == .switchCase)) := by
  refine start.seq fun _ => (caseTest h).bind fun test htest => (expect _).seq fun _ => ?_
  refine (sequenceUntil h.statement).bind fun items hitems => node ?_ rfl
  rcases htest with rfl | ⟨t, rfl, ht⟩
  · cases items with
    | nil => exact .noOptional
    | cons s items =>
      refine .optional ?_ (.after fun s' hs' => hitems s' (List.mem_cons_of_mem _ hs'))
      exact (hitems s (List.mem_cons_self ..)).weaken fun k hk => by rw [hk, Bool.or_true]
  · refine .optional (ht.weaken fun k hk => ?_) (.after hitems)
    rw [hk, Bool.true_or]

theorem switchStatement (h : rules.Sound) :
    Reads true (Grammar.switchStatement rules) (·.IsA isStatement) :=
  start.seq fun _ => advance.seq fun _ => (condition h).bind fun _ he => (expect _).seq fun _ =>
    (sequenceUntil (switchCase h)).bind fun _ hcases => (expect _).seq fun _ =>
      node (.first he (.after hcases)) rfl

theorem withStatement (h : rules.Sound) :
    Reads true (Grammar.withStatement rules) (·.IsA isStatement) :=
  start.seq fun _ => advance.seq fun _ => (condition h).bind fun _ he =>
    (bodyStatement h).bind fun _ hbody => node (.first he (.first hbody .none)) rfl

theorem jumpStatement : Reads x Grammar.jumpStatement (·.IsA isPlainStatement) := by
  refine start.seq fun _ => advance.seq fun _ => canEndStatement.seq fun _ => ?_
  extract_lets withTarget
  have hwithTarget : ∀ target, Content.Fits { optional := [isPlainName] } target →
      Reads x (withTarget target) (·.IsA isPlainStatement) :=
    fun target htarget => semicolon.seq fun _ => node htarget rfl
  clear_value withTarget
  refine ite (fun _ => give (hwithTarget _ .noOptional)) fun _ => ?_
  exact label.bind fun l hl => give (hwithTarget _ (.optional hl .none))

theorem throwStatement (h : rules.Sound) :
    Reads x (Grammar.throwStatement rules) (·.IsA isPlainStatement) := by
  refine start.seq fun _ => advance.seq fun _ => cur.seq fun _ => ?_
  extract_lets thrown
  have hthrown : Reads x (thrown ()) (·.IsA isPlainStatement) :=
    (expression h).bind fun e he => semicolon.seq fun _ => node (.first he .none) rfl
  clear_value thrown
  exact ite (fun _ => (complain _ _).seq fun _ => hthrown) fun _ => hthrown

/-- The one statement that the permission is about. -/
theorem returnStatement (h : rules.Sound) :
    Reads true (Grammar.returnStatement rules) (·.IsA isStatement) := by
  refine start.seq fun _ => advance.seq fun _ => canEndStatement.seq fun _ => ?_
  extract_lets withValue
  have hwithValue : ∀ value, Content.Fits { optional := [isExpression] } value →
      Reads true (withValue value) (·.IsA isStatement) := by
    intro value hvalue
    exact complainUnlessPermitted (node hvalue rfl)
  clear_value withValue
  refine ite (fun _ => (eat _).seq fun _ => give (hwithValue _ .noOptional)) fun _ => ?_
  refine (expression h).withIn.bind fun e he => semicolon.seq fun _ => ?_
  exact give (hwithValue _ (.optional he .none))

theorem catchClause (h : rules.Sound) :
    Reads true (Grammar.catchClause rules) (·.IsA isCatchClause) := by
  refine start.seq fun _ => (expect _).seq fun _ => (eat _).seq fun _ => ?_
  extract_lets withBound
  have hwithout : Reads true (withBound []) (·.IsA isCatchClause) :=
    (block h).bind fun body hbody => node (k := .catchClause false) (.first hbody .none) rfl
  have hwith : ∀ p, p.IsA isPattern → Reads true (withBound [p]) (·.IsA isCatchClause) :=
    fun p hp => (block h).bind fun body hbody =>
      node (k := .catchClause true) (.first hp (.first hbody .none)) rfl
  clear_value withBound
  refine ite (fun _ => ?_) fun _ => give hwithout
  exact h.pattern.bind fun p hp => (expect _).seq fun _ => give (hwith p hp)

def isHandler (k : Kind) : Bool := k.isCatchClause || k == .block

theorem tryStatement (h : rules.Sound) :
    Reads true (Grammar.tryStatement rules) (·.IsA isStatement) := by
  refine start.seq fun _ => advance.seq fun _ => (block h).bind fun body hbody => ?_
  apply (at_ _).seq
  intro _
  extract_lets withHandler
  have hwithHandler : ∀ handler, AllAre handler isHandler →
      Reads true (withHandler handler) (·.IsA isStatement) := by
    intro handler hhandler
    apply (eat _).seq
    intro _
    extract_lets withFinal
    have hwithFinal : ∀ final, AllAre final isHandler →
        Reads true (withFinal final) (·.IsA isStatement) := by
      intro final hfinal
      unfold withFinal
      extract_lets finish
      have hfinish : Reads true (finish ()) (·.IsA isStatement) :=
        node (.first hbody (.after (hhandler.append hfinal))) rfl
      clear_value finish
      exact ite (fun _ => (refuse _ _).never) fun _ => hfinish
    clear_value withFinal
    refine ite (fun _ => ?_) fun _ => give (hwithFinal _ .nil)
    refine (block h).bind fun b hb => give (hwithFinal _ (.singleton (hb.weaken fun k hk => ?_)))
    rw [isHandler, hk, Bool.or_true]
  clear_value withHandler
  refine ite (fun _ => ?_) fun _ => give (hwithHandler _ .nil)
  refine (catchClause h).bind fun c hc =>
    give (hwithHandler _ (.singleton (hc.weaken fun k hk => ?_)))
  rw [isHandler, hk, Bool.true_or]

theorem debuggerStatement : Reads x Grammar.debuggerStatement (·.IsA isPlainStatement) :=
  start.seq fun _ => advance.seq fun _ => semicolon.seq fun _ => node .none rfl

/-! ## Loops -/

theorem doLoop (h : rules.Sound) : Reads true (Grammar.doLoop rules) (·.IsA isStatement) := by
  refine start.seq fun _ => advance.seq fun _ => (bodyStatement h).bind fun _ hbody => ?_
  refine (expect _).seq fun _ => (condition h).bind fun _ htest => (eat _).seq fun _ => ?_
  exact node (.first hbody (.first htest .none)) rfl

theorem whileLoop (h : rules.Sound) : Reads true (Grammar.whileLoop rules) (·.IsA isStatement) :=
  start.seq fun _ => advance.seq fun _ => (condition h).bind fun _ htest =>
    (bodyStatement h).bind fun _ hbody => node (.first htest (.first hbody .none)) rfl

def isLoopPart (k : Kind) : Bool := k.isExpression || k.isStatement

theorem isLoopPart_of_isExpression {k : Kind} (h : k.isExpression = true) :
    isLoopPart k = true := by
  rw [isLoopPart, h, Bool.true_or]

theorem countedLoop (h : rules.Sound) {start : Nat} {isAwait : Bool} {init : List Tree}
    (hinit : AllAre init isLoopPart) :
    Reads true (Grammar.countedLoop rules start isAwait init) (·.IsA isStatement) := by
  unfold Grammar.countedLoop
  extract_lets part
  have hpart : ∀ done, Reads true (part done) (AllAre · isLoopPart) := fun done =>
    ite (fun _ => pure .nil) fun _ => (expression h).withIn.bind fun e he =>
      pure (.singleton (he.weaken fun _ => isLoopPart_of_isExpression))
  clear_value part
  refine (expect _).seq fun _ => (at_ _).seq fun _ => (at_ _).seq fun _ => ?_
  refine (hpart _).bind fun test htest => (expect _).seq fun _ => (at_ _).seq fun _ => ?_
  refine (hpart _).bind fun update hupdate => (expect _).seq fun _ => ?_
  extract_lets finish
  have hfinish : Reads true (finish ()) (·.IsA isStatement) := by
    refine (bodyStatement h).bind fun body hbody => node (.after ?_) rfl
    refine ((hinit.append htest).append hupdate).append (.singleton (hbody.weaken fun k hk => ?_))
    rw [isLoopPart, hk, Bool.or_true]
  clear_value finish
  exact ite (fun _ => (complain _ _).seq fun _ => hfinish) fun _ => hfinish

theorem elementLoop (h : rules.Sound) {start : Nat} {isAwait : Bool} {left : Tree}
    (hleft : left.IsA fun k => k.isDeclaration || k.isTarget) :
    Reads true (Grammar.elementLoop rules start isAwait left) (·.IsA isStatement) := by
  refine (at_ _).seq fun isIn => advance.seq fun _ => ?_
  extract_lets withRight
  have hwithRight : ∀ right, right.IsA isExpression →
      Reads true (withRight right) (·.IsA isStatement) := by
    intro right hright
    apply (expect _).seq
    intro _
    extract_lets finish
    have hfinish : Reads true (finish ()) (·.IsA isStatement) := by
      apply (bodyStatement h).bind
      intro body hbody
      cases isIn
      · exact node (k := .forOf isAwait) (.first hleft (.first hright (.first hbody .none))) rfl
      · exact node (k := .forIn) (.first hleft (.first hright (.first hbody .none))) rfl
    clear_value finish
    exact ite (fun _ => (complain _ _).seq fun _ => hfinish) fun _ => hfinish
  clear_value withRight
  exact ite (fun _ => (expression h).bind hwithRight) fun _ => h.assignment.bind hwithRight

theorem atElementLoop : Passes x Grammar.atElementLoop :=
  (at_ _).seq fun _ => (at_ _).seq fun _ => pure trivial

theorem isLoopPart_of_isDeclaration {k : Kind} (h : k.isDeclaration = true) :
    isLoopPart k = true := by
  rw [isLoopPart, isStatement_of_isDeclaration h, Bool.or_true]

theorem isLeft_of_isDeclaration {k : Kind} (h : k.isDeclaration = true) :
    (k.isDeclaration || k.isTarget) = true := by
  rw [h, Bool.true_or]

theorem declaringLoop (h : rules.Sound) {start : Nat} {isAwait : Bool} :
    Reads true (Grammar.declaringLoop rules start isAwait) (·.IsA isStatement) := by
  apply Reads.start.seq
  intro inside
  refine ((declaration h .clause inside).within fun _ _ => rfl).bind fun d hd => ?_
  refine atElementLoop.seq fun _ => ite (fun _ => ?_) fun _ => ?_
  · exact elementLoop h (hd.weaken fun _ => isLeft_of_isDeclaration)
  · exact countedLoop h (.singleton (hd.weaken fun _ => isLoopPart_of_isDeclaration))

theorem usingLoop (h : rules.Sound) {start : Nat} {isAwait : Bool} :
    Reads true (Grammar.usingLoop rules start isAwait) (·.IsA isStatement) := by
  refine (usingDeclaration h true).bind fun d hd => (at_ _).seq fun _ => ?_
  extract_lets loop_
  have hloop : Reads true (loop_ ()) (·.IsA isStatement) := by
    refine atElementLoop.seq fun _ => ite (fun _ => ?_) fun _ => ?_
    · exact elementLoop h (hd.weaken fun _ => isLeft_of_isDeclaration)
    · exact countedLoop h (.singleton (hd.weaken fun _ => isLoopPart_of_isDeclaration))
  clear_value loop_
  exact ite (fun _ => (complain _ _).seq fun _ => hloop) fun _ => hloop

theorem plainLoop (h : rules.Sound) {start : Nat} {isAwait : Bool} :
    Reads true (Grammar.plainLoop rules start isAwait) (·.IsA isStatement) := by
  refine cur.seq fun first => ((pure trivial).andM (peekAt _)).seq fun asyncOf => ?_
  refine ((expression h).within fun _ _ => rfl).bind fun e he => atElementLoop.seq fun _ => ?_
  refine ite (fun _ => ?_) fun _ => ?_
  · apply ((assignmentTarget he).orRefuse _ _).bind
    intro left hleft
    extract_lets loop_
    have hloop : Reads true (loop_ ()) (·.IsA isStatement) :=
      elementLoop h (hleft.weaken fun k hk => by rw [hk, Bool.or_true])
    clear_value loop_
    exact ite (fun _ => (complain _ _).seq fun _ => hloop) fun _ => hloop
  · exact countedLoop h (.singleton (he.weaken fun _ => isLoopPart_of_isExpression))

theorem forStatement (h : rules.Sound) :
    Reads true (Grammar.forStatement rules) (·.IsA isStatement) := by
  refine start.seq fun start => advance.seq fun _ => context (fun _ _ => rfl) fun c => ?_
  extract_lets withAwait
  have hwithAwait : ∀ isAwait, Reads true (withAwait isAwait) (·.IsA isStatement) := by
    refine fun isAwait => (expect _).seq fun _ => curKind.seq fun k => ?_
    split
    · exact countedLoop h .nil
    · exact countedLoop h .nil
    · exact declaringLoop h
    · exact declaringLoop h
    · exact peekKind.seq fun _ => ite (fun _ => declaringLoop h) fun _ => plainLoop h
    · exact (peekAt _).seq fun _ => ite (fun _ => usingLoop h) fun _ => plainLoop h
    · exact peekKind.seq fun _ => ite (fun _ => usingLoop h) fun _ => plainLoop h
    · exact plainLoop h
  clear_value withAwait
  exact ite (fun _ => (eat _).seq hwithAwait) fun _ => give (hwithAwait _)

end Reads

end PluginAudit.Script
