import PluginAudit.Proofs.Plugin.EntryPoints
import PluginAudit.Proofs.Reader.Guards

/-!
# Returns outside functions

Where `return` is not permitted, a text that is read without a fault has no `return` but those of
functions and classes.
-/

namespace PluginAudit.Script

open Plugin.EntryPoint

namespace Kind

/-- Kinds with statements among their parts, and returns. -/
def holdsStatements : KindClass
  | .program | .block | .body | .staticBlock | .ifStatement | .doLoop | .whileLoop => true
  | .forLoop | .forIn | .forOf _ | .withStatement | .switchStatement | .switchCase => true
  | .tryStatement | .catchClause _ | .labelled | .returnStatement => true
  | _ => false

variable {k p : Kind}

@[grind →]
theorem not_holdsStatements_of_isValuePart (h : isValuePart p = true) :
    p.holdsStatements = false := by
  cases p <;> first | rfl | cases h

@[grind →]
theorem not_holdsStatements_of_isPlainStatement (h : p.isPlainStatement = true) :
    p.holdsStatements = false := by
  cases p <;> first | rfl | cases h

@[grind →]
theorem not_holdsStatements_of_isType (h : p.isType = true) : p.holdsStatements = false := by
  cases p <;> first | rfl | cases h

@[grind →]
theorem not_holdsStatements_of_isDecorator (h : p.isDecorator = true) :
    p.holdsStatements = false := by
  rw [eq_of_beq h]
  rfl

@[grind →]
theorem not_holdsStatements_of_isExportedPart (h : p.isExportedPart = true) :
    p.holdsStatements = false := by
  cases p <;> first | rfl | cases h

@[grind →]
theorem not_holdsStatements_of_isExported (h : p.isExported = true) :
    p.holdsStatements = false := by
  cases p <;> first | rfl | cases h

@[grind →]
theorem not_holdsStatements_of_isInterfaceName (h : p.isInterfaceName = true) :
    p.holdsStatements = false := by
  cases p <;> first | rfl | cases h

/-- Below a kind without statements stand such kinds, down to functions and classes. -/
theorem not_holdsStatements_of_mentions (hk : k.holdsStatements = false)
    (hscope : isScope k = false) (h : k.content.mentions p = true) :
    p.holdsStatements = false := by
  by_cases hvalue : isValuePart k = true
  · have hown : isOwnScope k = false := by rw [isOwnScope_eq, hscope, Bool.false_and]
    exact not_holdsStatements_of_isValuePart (isValuePart_of_mentions hvalue hown h)
  · cases k with
    | property | targetProperty => exact absurd rfl hvalue
    | _ =>
      first
      | (cases hk; done)
      | (cases hscope; done)
      | exact absurd rfl hvalue
      | simp only [content, Content.mentions, List.any_cons, List.any_nil, Bool.or_eq_true] at h
        grind [→ isExpression_of_isStringLiteral, holdsStatements]

end Kind

namespace Tree

open Kind

inductive HoldsReturn : Tree → Prop
  | self {t : Tree} (h : t.kind = .returnStatement) : HoldsReturn t
  | part {t p : Tree} (hscope : isScope t.kind = false) (hp : p ∈ t.parts) (h : HoldsReturn p) :
      HoldsReturn t

variable {t : Tree}

theorem not_holdsReturn_of_kind (hwf : t.WellFormed) (hk : t.kind.holdsStatements = false) :
    ¬ t.HoldsReturn := by
  intro h
  induction h with
  | self hreturn =>
    rw [hreturn] at hk
    cases hk
  | part hscope hp _ ih =>
    have hpart := not_holdsStatements_of_mentions hk hscope (hwf.mentions hp)
    exact ih (hwf.of_mem_parts hp) hpart

theorem IsA.not_holdsReturn {c : KindClass} (ht : t.IsA c)
    (hc : ∀ k, c k = true → k.holdsStatements = false) : ¬ t.HoldsReturn :=
  not_holdsReturn_of_kind ht.wellFormed (hc _ ht.kind)

theorem not_holdsReturn_node {k : Kind} {start stop : Nat} {ps : List Tree}
    (hk : k ≠ .returnStatement) (hps : ∀ p ∈ ps, ¬ p.HoldsReturn) :
    ¬ (node k start stop ps).HoldsReturn := by
  intro h
  cases h with
  | self hreturn => exact hk hreturn
  | part _ hp hpart => exact hps _ hp hpart

theorem holdsReturn_of_occurrence {around : List Kind} {o : Occurrence}
    (ho : o ∈ t.occurrences around) (htop : IsTopLevel o)
    (hreturn : o.node.kind = .returnStatement) : t.HoldsReturn := by
  induction t using induct generalizing around with
  | step t ih =>
    rw [occurrences_eq] at ho
    rcases List.mem_cons.1 ho with rfl | ho
    · exact .self hreturn
    · obtain ⟨p, hp, ho⟩ := List.mem_flatMap.1 ho
      have hscope : isScope t.kind = false :=
        htop _ (mem_around_of_mem ho (List.mem_cons_self ..))
      exact .part hscope hp (ih p hp ho)

theorem topLevelReturns_eq_zero (h : ¬ t.HoldsReturn) : topLevelReturns t = 0 := by
  rw [topLevelReturns, List.countP_eq_zero]
  intro o ho hcounted
  obtain ⟨⟨hreturn, _⟩, htop⟩ := of_decide_eq_true hcounted
  exact h (holdsReturn_of_occurrence ho htop hreturn)

end Tree

/-! ## What the grammar guards against -/

open Kind PluginAudit.Script.Tree

abbrev GuardsReturns (r : Reader Tree) : Prop :=
  Guards r fun t => ¬ t.HoldsReturn

abbrev GuardsAllReturns (r : Reader (List Tree)) : Prop :=
  Guards r fun ts => ∀ t ∈ ts, ¬ t.HoldsReturn

structure Rules.GuardReturns (rules : Rules) : Prop where
  sound : rules.Sound
  statement : ∀ {inBody}, GuardsReturns (rules (.statement inBody))

namespace Guards

open Reads (start advance expect eat at_ cur curKind peek peekKind peekAt)

variable {rules : Rules}

theorem plain {r : Reader Tree} (h : Reads true r (·.IsA isPlainStatement)) : GuardsReturns r :=
  ofReads h fun _ ht => ht.not_holdsReturn fun _ => not_holdsStatements_of_isPlainStatement

theorem expression (h : rules.GuardReturns) :
    Reads true (Grammar.expression rules) fun e => ¬ e.HoldsReturn :=
  (Reads.expression h.sound).mono fun _ he => he.not_holdsReturn (by grind)

theorem condition (h : rules.GuardReturns) :
    Reads true (Grammar.condition rules) fun e => ¬ e.HoldsReturn :=
  (Reads.condition h.sound).mono fun _ he => he.not_holdsReturn (by grind)

theorem bodyStatement (h : rules.GuardReturns) : GuardsReturns (Grammar.bodyStatement rules) :=
  h.statement

theorem sequenceUntil {stop : TokenKind → Bool} {element : Reader Tree}
    (h : GuardsReturns element) : GuardsAllReturns (Grammar.sequenceUntil stop element) := by
  refine loop (fun items => ∀ t ∈ items, ¬ t.HoldsReturn) nofun fun items => ?_
  refine curKind.guards fun k _ => ite (fun _ => pure ?_) fun _ => h.bind fun t => pure ?_
  · simp
  · intro ht hitems
    exact List.forall_mem_cons.2 ⟨ht, hitems⟩

theorem block (h : rules.GuardReturns) : GuardsReturns (Grammar.block rules) :=
  start.guards fun _ _ => (expect _).guards fun _ _ =>
    (sequenceUntil h.statement).bind fun _ => (expect _).guards fun _ _ =>
      node fun _ hitems => not_holdsReturn_node nofun hitems

theorem ifStatement (h : rules.GuardReturns) : GuardsReturns (Grammar.ifStatement rules) := by
  refine start.guards fun _ _ => advance.guards fun _ _ => (condition h).guards fun test htest => ?_
  refine (bodyStatement h).bind fun yes => (eat _).guards fun _ _ => ?_
  extract_lets withElse
  have hwithElse (no : List Tree) : Guards (withElse no) fun t =>
      (∀ s ∈ no, ¬ s.HoldsReturn) → ¬ yes.HoldsReturn → ¬ t.HoldsReturn :=
    node fun _ hno hyes => not_holdsReturn_node nofun (by simp_all)
  clear_value withElse
  refine ite (fun _ => (bodyStatement h).bind fun s => ?_) fun _ => ?_
  · exact (hwithElse [s]).mono fun t ht hs => ht (by simpa using hs)
  · exact (hwithElse []).mono fun t ht => ht nofun

theorem switchCase (h : rules.GuardReturns) : GuardsReturns (Grammar.switchCase rules) := by
  refine start.guards fun _ _ => (Reads.caseTest h.sound).guards fun test htest => ?_
  have htest : ∀ t ∈ test, ¬ t.HoldsReturn := by
    rcases htest with rfl | ⟨t, rfl, ht⟩
    · exact nofun
    · exact List.forall_mem_singleton.2 (ht.not_holdsReturn (by grind))
  refine (expect _).guards fun _ _ => (sequenceUntil h.statement).bind fun items => ?_
  exact node fun _ hitems =>
    not_holdsReturn_node nofun (List.forall_mem_append.2 ⟨htest, hitems⟩)

theorem switchStatement (h : rules.GuardReturns) :
    GuardsReturns (Grammar.switchStatement rules) := by
  refine start.guards fun _ _ => advance.guards fun _ _ => (condition h).guards fun e he => ?_
  refine (expect _).guards fun _ _ => (sequenceUntil (switchCase h)).bind fun cases => ?_
  exact (expect _).guards fun _ _ => node fun _ hcases =>
    not_holdsReturn_node nofun (List.forall_mem_cons.2 ⟨he, hcases⟩)

theorem withStatement (h : rules.GuardReturns) :
    GuardsReturns (Grammar.withStatement rules) := by
  refine start.guards fun _ _ => advance.guards fun _ _ => (condition h).guards fun e he => ?_
  refine (bodyStatement h).bind fun body => node fun _ hbody => ?_
  exact not_holdsReturn_node nofun (by simp [he, hbody])

theorem returnStatement (h : rules.GuardReturns) :
    GuardsReturns (Grammar.returnStatement rules) := by
  -- nothing is said of the tree: each run without the permission ends with a fault noted
  refine start.guards fun _ _ => advance.guards fun _ _ => ?_
  apply Reads.canEndStatement.guards
  intro _ _
  extract_lets withValue
  have hwithValue (value : List Tree) : GuardsReturns (withValue value) :=
    complains (Reads.lastStop.seq fun _ => Reads.pure trivial)
  clear_value withValue
  refine ite (fun _ => (eat _).guards fun _ _ => hwithValue _) fun _ => ?_
  exact (expression h).withIn.guards fun e _ => Reads.semicolon.guards fun _ _ =>
    hwithValue _

theorem catchClause (h : rules.GuardReturns) : GuardsReturns (Grammar.catchClause rules) := by
  refine start.guards fun _ _ => (expect _).guards fun _ _ => (eat _).guards fun _ _ => ?_
  extract_lets withBound
  have hwithBound (bound : List Tree) (hbound : ∀ p ∈ bound, ¬ p.HoldsReturn) :
      GuardsReturns (withBound bound) :=
    (block h).bind fun body => node fun _ hbody => not_holdsReturn_node nofun
      (List.forall_mem_append.2 ⟨hbound, List.forall_mem_singleton.2 hbody⟩)
  clear_value withBound
  refine ite (fun _ => h.sound.pattern.guards fun p hp => ?_) fun _ => hwithBound [] nofun
  have hp : ¬ p.HoldsReturn := hp.not_holdsReturn (by grind)
  exact (expect _).guards fun _ _ => hwithBound [p] (List.forall_mem_singleton.2 hp)

theorem tryStatement (h : rules.GuardReturns) : GuardsReturns (Grammar.tryStatement rules) := by
  refine start.guards fun _ _ => advance.guards fun _ _ => (block h).bind fun body => ?_
  apply (at_ _).guards
  intro _ _
  extract_lets withHandler
  have hwithHandler (handler : List Tree) : Guards (withHandler handler) fun t =>
      (∀ c ∈ handler, ¬ c.HoldsReturn) → ¬ body.HoldsReturn → ¬ t.HoldsReturn := by
    apply (eat _).guards
    intro _ _
    extract_lets withFinal
    have hwithFinal (final : List Tree) : Guards (withFinal final) fun t =>
        (∀ b ∈ final, ¬ b.HoldsReturn) → (∀ c ∈ handler, ¬ c.HoldsReturn) →
          ¬ body.HoldsReturn → ¬ t.HoldsReturn := by
      refine ite (fun _ => never (Reads.refuse _ _)) fun _ => ?_
      refine node fun _ hfinal hhandler hbody => not_holdsReturn_node nofun ?_
      exact List.forall_mem_cons.2 ⟨hbody, List.forall_mem_append.2 ⟨hhandler, hfinal⟩⟩
    clear_value withFinal
    refine ite (fun _ => (block h).bind fun b => ?_) fun _ => ?_
    · exact (hwithFinal [b]).mono fun t ht hb => ht (List.forall_mem_singleton.2 hb)
    · exact (hwithFinal []).mono fun t ht => ht nofun
  clear_value withHandler
  refine ite (fun _ => (catchClause h).bind fun c => ?_) fun _ => ?_
  · exact (hwithHandler [c]).mono fun t ht hc => ht (List.forall_mem_singleton.2 hc)
  · exact (hwithHandler []).mono fun t ht => ht nofun

/-! ## Loops -/

theorem doLoop (h : rules.GuardReturns) : GuardsReturns (Grammar.doLoop rules) := by
  refine start.guards fun _ _ => advance.guards fun _ _ => (bodyStatement h).bind fun body => ?_
  refine (expect _).guards fun _ _ => (condition h).guards fun test htest => ?_
  refine (eat _).guards fun _ _ => node fun _ hbody => ?_
  exact not_holdsReturn_node nofun (by simp [htest, hbody])

theorem whileLoop (h : rules.GuardReturns) : GuardsReturns (Grammar.whileLoop rules) := by
  refine start.guards fun _ _ => advance.guards fun _ _ => (condition h).guards fun test htest => ?_
  refine (bodyStatement h).bind fun body => node fun _ hbody => ?_
  exact not_holdsReturn_node nofun (by simp [htest, hbody])

theorem countedLoop (h : rules.GuardReturns) {start : Nat} {isAwait : Bool} {init : List Tree}
    (hinit : ∀ t ∈ init, ¬ t.HoldsReturn) :
    GuardsReturns (Grammar.countedLoop rules start isAwait init) := by
  unfold Grammar.countedLoop
  extract_lets part
  have hpart (done : Bool) : Reads true (part done) fun ts => ∀ t ∈ ts, ¬ t.HoldsReturn := by
    refine .ite (fun _ => .pure nofun) fun _ => ?_
    exact (expression h).withIn.bind fun e he => .pure (List.forall_mem_singleton.2 he)
  clear_value part
  refine (expect _).guards fun _ _ => (at_ _).guards fun _ _ => (at_ _).guards fun _ _ => ?_
  refine (hpart _).guards fun test htest => (expect _).guards fun _ _ => ?_
  refine (at_ _).guards fun _ _ => ?_
  refine (hpart _).guards fun update hupdate => (expect _).guards fun _ _ => ?_
  extract_lets finish
  have hfinish : GuardsReturns (finish ()) := by
    refine (bodyStatement h).bind fun body => node fun _ hbody => not_holdsReturn_node nofun ?_
    simp only [List.forall_mem_append, List.forall_mem_singleton]
    exact ⟨⟨⟨hinit, htest⟩, hupdate⟩, hbody⟩
  clear_value finish
  exact ite (fun _ => (Reads.complain _ _).guards fun _ _ => hfinish) fun _ => hfinish

theorem elementLoop (h : rules.GuardReturns) {start : Nat} {isAwait : Bool} {left : Tree}
    (hleft : ¬ left.HoldsReturn) :
    GuardsReturns (Grammar.elementLoop rules start isAwait left) := by
  refine (at_ _).guards fun isIn _ => advance.guards fun _ _ => ?_
  extract_lets withRight
  have hwithRight (right : Tree) (hright : ¬ right.HoldsReturn) :
      GuardsReturns (withRight right) := by
    apply (expect _).guards
    intro _ _
    extract_lets finish
    have hfinish : GuardsReturns (finish ()) := by
      refine (bodyStatement h).bind fun body => node fun _ hbody => not_holdsReturn_node ?_ ?_
      · cases isIn <;> exact nofun
      · simp [hleft, hright, hbody]
    clear_value finish
    exact ite (fun _ => (Reads.complain _ _).guards fun _ _ => hfinish) fun _ => hfinish
  clear_value withRight
  refine ite (fun _ => (expression h).guards hwithRight) fun _ => ?_
  exact h.sound.assignment.guards fun right hright =>
    hwithRight right (hright.not_holdsReturn (by grind))

theorem headedLoop (h : rules.GuardReturns) {start : Nat} {isAwait : Bool} {left : Tree}
    (hleft : ¬ left.HoldsReturn) : GuardsReturns (do
      if ← Grammar.atElementLoop then Grammar.elementLoop rules start isAwait left
      else Grammar.countedLoop rules start isAwait [left]) :=
  Reads.atElementLoop.guards fun _ _ => ite (fun _ => elementLoop h hleft) fun _ =>
    countedLoop h (List.forall_mem_singleton.2 hleft)

theorem declaringLoop (h : rules.GuardReturns) {start : Nat} {isAwait : Bool} :
    GuardsReturns (Grammar.declaringLoop rules start isAwait) := by
  apply Reads.start.guards
  intro inside _
  refine ((Reads.declaration h.sound .clause inside).within fun _ _ => rfl).guards fun d hd => ?_
  have hd : ¬ d.HoldsReturn :=
    hd.not_holdsReturn (by grind [→ isPlainStatement_of_isDeclaration])
  exact headedLoop h hd

theorem usingLoop (h : rules.GuardReturns) {start : Nat} {isAwait : Bool} :
    GuardsReturns (Grammar.usingLoop rules start isAwait) := by
  refine (Reads.usingDeclaration h.sound true).guards fun d hd => (at_ _).guards fun _ _ => ?_
  have hd : ¬ d.HoldsReturn :=
    hd.not_holdsReturn (by grind [→ isPlainStatement_of_isDeclaration])
  extract_lets loop_
  have hloop : GuardsReturns (loop_ ()) := headedLoop h hd
  clear_value loop_
  exact ite (fun _ => (Reads.complain _ _).guards fun _ _ => hloop) fun _ => hloop

theorem plainLoop (h : rules.GuardReturns) {start : Nat} {isAwait : Bool} :
    GuardsReturns (Grammar.plainLoop rules start isAwait) := by
  refine cur.guards fun first _ => ?_
  refine ((Reads.pure trivial).andM (peekAt _)).guards fun asyncOf _ => ?_
  refine ((Reads.expression h.sound).within fun _ _ => rfl).guards fun e he => ?_
  refine Reads.atElementLoop.guards fun _ _ => ite (fun _ => ?_) fun _ => ?_
  · apply ((Reads.assignmentTarget he).orRefuse _ _).guards
    intro left hleft
    have hleft : ¬ left.HoldsReturn := hleft.not_holdsReturn (by grind)
    extract_lets loop_
    have hloop : GuardsReturns (loop_ ()) := elementLoop h hleft
    clear_value loop_
    exact ite (fun _ => (Reads.complain _ _).guards fun _ _ => hloop) fun _ => hloop
  · have he : ¬ e.HoldsReturn := he.not_holdsReturn (by grind)
    exact countedLoop h (List.forall_mem_singleton.2 he)

theorem forStatement (h : rules.GuardReturns) : GuardsReturns (Grammar.forStatement rules) := by
  refine start.guards fun start _ => advance.guards fun _ _ => context (fun _ _ => rfl) fun c => ?_
  extract_lets withAwait
  have hwithAwait (isAwait : Bool) : GuardsReturns (withAwait isAwait) := by
    refine (expect _).guards fun _ _ => curKind.guards fun k _ => ?_
    split
    · exact countedLoop h nofun
    · exact countedLoop h nofun
    · exact declaringLoop h
    · exact declaringLoop h
    · exact peekKind.guards fun _ _ => ite (fun _ => declaringLoop h) fun _ => plainLoop h
    · exact (peekAt _).guards fun _ _ => ite (fun _ => usingLoop h) fun _ => plainLoop h
    · exact peekKind.guards fun _ _ => ite (fun _ => usingLoop h) fun _ => plainLoop h
    · exact plainLoop h
  clear_value withAwait
  exact ite (fun _ => (eat _).guards fun _ _ => hwithAwait _) fun _ => hwithAwait _

/-! ## Statements and scripts -/

theorem labelledOrExpression (h : rules.GuardReturns) :
    GuardsReturns (Grammar.labelledOrExpression rules) := by
  refine start.guards fun _ _ => (Reads.expression h.sound).guards fun e he => ?_
  refine (at_ _).guards fun _ _ => ite (fun _ => advance.guards fun _ _ => ?_) fun _ => ?_
  · have he : ¬ e.HoldsReturn := he.not_holdsReturn (by grind)
    refine (bodyStatement h).bind fun body => node fun _ hbody => ?_
    exact not_holdsReturn_node nofun (by simp [he, hbody])
  · exact plain (Reads.expressionStatement he)

theorem statement (h : rules.GuardReturns) (inBody : Bool) :
    GuardsReturns (Grammar.statement rules inBody) := by
  refine start.guards fun start _ => (Reads.decorators h.sound).guards fun _ _ => ?_
  refine Reads.atFunction.guards fun _ _ => ite (fun _ => ?_) fun _ => ?_
  · exact plain (Reads.functionStatement h.sound inBody)
  refine Reads.atUsing.guards fun _ _ => ite (fun _ => plain (Reads.usingStatement h.sound)) ?_
  refine fun _ => cur.guards fun t _ => ?_
  have hdeclaration :
      GuardsReturns (Grammar.declaration rules (.statement inBody) t.start) :=
    ofReads (Reads.declaration h.sound _ _) fun d hd =>
      hd.not_holdsReturn (by grind [→ isPlainStatement_of_isDeclaration])
  split
  · exact block h
  · exact plain (Reads.leaf .none rfl)
  · exact ifStatement h
  · exact doLoop h
  · exact whileLoop h
  · exact forStatement h
  · exact plain Reads.jumpStatement
  · exact plain Reads.jumpStatement
  · exact returnStatement h
  · exact withStatement h
  · exact switchStatement h
  · exact plain (Reads.throwStatement h.sound)
  · exact tryStatement h
  · exact plain Reads.debuggerStatement
  · exact plain (Reads.classStatement h.sound inBody start)
  · exact plain (Reads.exportDeclaration h.sound)
  · exact hdeclaration
  · exact hdeclaration
  · exact ite (fun _ => labelledOrExpression h) fun _ => plain (Reads.letStatement h.sound inBody)
  · exact peek.guards fun _ _ => ite (fun _ => labelledOrExpression h) fun _ =>
      plain Reads.importDeclaration
  · exact labelledOrExpression h

theorem statements (h : rules.GuardReturns) (inBody : Bool) :
    GuardsAllReturns (Grammar.statements rules inBody) := by
  refine loop (fun p => ∀ t ∈ p.2, ¬ t.HoldsReturn) nofun fun p => ?_
  obtain ⟨prologue, items⟩ := p
  refine Reads.atEnd.guards fun _ _ => (at_ _).guards fun _ _ => ite (fun _ => pure ?_) fun _ => ?_
  · simp
  · refine bindReads h.sound.statement h.statement fun s hs => ite (fun hd => pure ?_) fun _ => ?_
    · have hdirective := Reads.directive_of_isDirective hs (Bool.and_eq_true_iff.1 hd).2
      have hs' : ¬ (s.withKind .directive).HoldsReturn :=
        not_holdsReturn_of_kind hdirective.wellFormed rfl
      exact fun _ hitems => List.forall_mem_cons.2 ⟨hs', hitems⟩
    · exact pure fun hs' hitems => List.forall_mem_cons.2 ⟨hs', hitems⟩

theorem program (h : rules.GuardReturns) : GuardsReturns (Grammar.program rules) := by
  apply cur.guards
  intro t _
  extract_lets withBang
  have hwithBang (bang : List Tree) (hbang : ∀ b ∈ bang, ¬ b.HoldsReturn) :
      GuardsReturns (withBang bang) :=
    (statements h false).bind fun items => node fun _ hitems =>
      not_holdsReturn_node nofun (List.forall_mem_append.2 ⟨hbang, hitems⟩)
  clear_value withBang
  refine ite (fun _ => ?_) fun _ => hwithBang [] nofun
  have hleaf : Reads true (Reader.leaf .hashbang) (·.IsA (· == .hashbang)) := .leaf .none rfl
  refine hleaf.guards fun b hb => hwithBang [b] (List.forall_mem_singleton.2 ?_)
  exact hb.not_holdsReturn fun k hk => by rw [eq_of_beq hk]; rfl

end Guards

theorem rules_guardReturns (n : Nat) : (Grammar.rules n).GuardReturns := by
  induction n with
  | zero =>
    exact ⟨rules_sound 0, Guards.ofReads (Reads.throw _ : Reads true _ fun _ => False) nofun⟩
  | succ n ih => exact ⟨rules_sound (n + 1), Guards.statement ih _⟩

theorem not_holdsReturn_of_read {text : List Char} {t : Tree} (h : read false text = .ok t) :
    ¬ t.HoldsReturn := by
  obtain ⟨s, hrun, hfaults⟩ := read_eq_ok.1 h
  have hall : s.allFaults [] = [] := allFaults_eq_nil.1 hfaults
  have hquiet : s.faults = [] := by
    simp only [ReadState.allFaults, List.append_eq_nil_iff, List.reverse_eq_nil_iff] at hall
    exact hall.1.2.1
  have hguards := Guards.program (rules_guardReturns (Grammar.depth text))
  exact hguards.clean (tidy_ofText _ text) rfl hrun hquiet

/-- What is read without permission for `return` outside functions has none there. -/
theorem topLevelReturns_of_read {text : List Char} {t : Tree} (h : read false text = .ok t) :
    topLevelReturns t = 0 :=
  topLevelReturns_eq_zero (not_holdsReturn_of_read h)

end PluginAudit.Script
