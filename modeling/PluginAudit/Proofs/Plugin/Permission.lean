import PluginAudit.Proofs.Plugin.Returns
import PluginAudit.Proofs.Reader.Reveals

/-!
# Texts that need permission to return

A text that is a script where `return` is permitted outside functions is one without the
permission, unless it has such a `return`.
-/

namespace PluginAudit.Script

open Kind PluginAudit.Script.Tree Plugin.EntryPoint

theorem Tree.not_holdsReturn_parts {k : Kind} {start stop : Nat} {ps : List Tree}
    (h : ¬ (node k start stop ps).HoldsReturn) (hscope : isScope k = false) :
    ∀ p ∈ ps, ¬ p.HoldsReturn :=
  fun _ hp hpart => h (.part hscope hp hpart)

theorem Tree.not_holdsReturn_of_directive {t : Tree} (hd : Grammar.isDirective t = true)
    (h : ¬ (t.withKind .directive).HoldsReturn) : ¬ t.HoldsReturn := by
  obtain ⟨k, start, stop, ps⟩ := t
  have hps : ∀ p ∈ ps, ¬ p.HoldsReturn := not_holdsReturn_parts h rfl
  have hk : k ≠ .returnStatement := by
    rintro rfl
    cases hd
  exact not_holdsReturn_node hk hps

abbrev RevealsReturns (r : Reader Tree) (P : Prop) : Prop :=
  Reveals r (fun t => ¬ t.HoldsReturn) P

abbrev RevealsAllReturns (r : Reader (List Tree)) (P : Prop) : Prop :=
  Reveals r (fun ts => ∀ t ∈ ts, ¬ t.HoldsReturn) P

structure Rules.RevealReturns (rules : Rules) : Prop where
  sound : rules.Sound
  statement : ∀ {inBody}, RevealsReturns (rules (.statement inBody)) True

namespace Reveals

open Reads (start advance expect eat at_ cur curKind peek peekKind peekAt)

variable {rules : Rules}

/-- A node of a kind that is no scope speaks for its parts. -/
theorem nodeOf {k : Kind} {start : Nat} {ps : List Tree} {P : Prop} (hscope : isScope k = false)
    (h : (∀ p ∈ ps, ¬ p.HoldsReturn) → P) : RevealsReturns (Reader.node k start ps) P :=
  node fun _ hnode => h (not_holdsReturn_parts hnode hscope)

theorem plain {r : Reader Tree} {c : KindClass} (h : Reads false r (·.IsA c)) :
    RevealsReturns r True :=
  ofReads h fun _ _ _ => trivial

theorem bodyStatement (h : rules.RevealReturns) :
    RevealsReturns (Grammar.bodyStatement rules) True :=
  h.statement

theorem sequenceUntil {stop : TokenKind → Bool} {element : Reader Tree}
    (h : RevealsReturns element True) :
    RevealsAllReturns (Grammar.sequenceUntil stop element) True := by
  refine (loop (fun items => ∀ t ∈ items, ¬ t.HoldsReturn) fun items => ?_).mono
    (fun _ h => h) fun _ => trivial
  refine curKind.reveals fun k _ => ite (fun _ => pure ?_) fun _ => h.bind fun t => pure ?_
  · simp
  · exact List.forall_mem_cons.1

theorem block (h : rules.RevealReturns) : RevealsReturns (Grammar.block rules) True :=
  start.reveals fun _ _ => (expect _).reveals fun _ _ =>
    (sequenceUntil h.statement).bind fun _ => (expect _).reveals fun _ _ =>
      nodeOf rfl fun hitems => ⟨hitems, trivial⟩

theorem ifStatement (h : rules.RevealReturns) :
    RevealsReturns (Grammar.ifStatement rules) True := by
  refine start.reveals fun _ _ => advance.reveals fun _ _ =>
    (Reads.condition h.sound).reveals fun test _ => ?_
  refine (bodyStatement h).bind fun yes => (eat _).reveals fun _ _ => ?_
  extract_lets withElse
  have hwithElse (no : List Tree) : RevealsReturns (withElse no)
      ((∀ s ∈ no, ¬ s.HoldsReturn) ∧ ¬ yes.HoldsReturn ∧ True) :=
    nodeOf rfl fun hparts => by simp_all
  clear_value withElse
  refine ite (fun _ => (bodyStatement h).bind fun s => ?_) fun _ => ?_
  · exact (hwithElse [s]).mono (fun _ h => h) fun hs => ⟨hs.1 s (List.mem_singleton_self s), hs.2⟩
  · exact (hwithElse []).mono (fun _ h => h) And.right

theorem switchCase (h : rules.RevealReturns) :
    RevealsReturns (Grammar.switchCase rules) True := by
  refine start.reveals fun _ _ => (Reads.caseTest h.sound).reveals fun test _ => ?_
  refine (expect _).reveals fun _ _ => (sequenceUntil h.statement).bind fun items => ?_
  exact nodeOf rfl fun hparts => ⟨(List.forall_mem_append.1 hparts).2, trivial⟩

theorem switchStatement (h : rules.RevealReturns) :
    RevealsReturns (Grammar.switchStatement rules) True := by
  refine start.reveals fun _ _ => advance.reveals fun _ _ =>
    (Reads.condition h.sound).reveals fun e _ => ?_
  refine (expect _).reveals fun _ _ => (sequenceUntil (switchCase h)).bind fun cases => ?_
  exact (expect _).reveals fun _ _ =>
    nodeOf rfl fun hparts => ⟨(List.forall_mem_cons.1 hparts).2, trivial⟩

theorem withStatement (h : rules.RevealReturns) :
    RevealsReturns (Grammar.withStatement rules) True := by
  refine start.reveals fun _ _ => advance.reveals fun _ _ =>
    (Reads.condition h.sound).reveals fun e _ => ?_
  exact (bodyStatement h).bind fun body => nodeOf rfl fun hparts => by simp_all

theorem returnStatement (h : rules.RevealReturns) :
    RevealsReturns (Grammar.returnStatement rules) True := by
  have hreads : Reads true (Grammar.returnStatement rules) (·.kind = .returnStatement) := by
    refine start.seq fun _ => advance.seq fun _ => ?_
    apply Reads.canEndStatement.seq
    intro _
    extract_lets withValue
    have hwithValue (value : List Tree) :
        Reads true (withValue value) (·.kind = .returnStatement) :=
      Reads.complainUnlessPermitted (Reads.lastStop.seq fun _ => Reads.pure rfl)
    clear_value withValue
    refine .ite (fun _ => (eat _).seq fun _ => hwithValue _) fun _ => ?_
    exact (Reads.expression h.sound).withIn.passes.seq fun e => Reads.semicolon.seq fun _ =>
      hwithValue _
  exact ofPasses hreads fun t ht hreturns => hreturns (.self ht)

theorem catchClause (h : rules.RevealReturns) :
    RevealsReturns (Grammar.catchClause rules) True := by
  refine start.reveals fun _ _ => (expect _).reveals fun _ _ => (eat _).reveals fun _ _ => ?_
  extract_lets withBound
  have hwithBound (bound : List Tree) : RevealsReturns (withBound bound) True :=
    (block h).bind fun body => nodeOf rfl fun hparts => by simp_all
  clear_value withBound
  refine ite (fun _ => h.sound.pattern.reveals fun p _ => ?_) fun _ => hwithBound []
  exact (expect _).reveals fun _ _ => hwithBound [p]

theorem tryStatement (h : rules.RevealReturns) :
    RevealsReturns (Grammar.tryStatement rules) True := by
  refine start.reveals fun _ _ => advance.reveals fun _ _ => (block h).bind fun body => ?_
  apply (at_ _).reveals
  intro _ _
  extract_lets withHandler
  have hwithHandler (handler : List Tree) : RevealsReturns (withHandler handler)
      ((∀ c ∈ handler, ¬ c.HoldsReturn) ∧ ¬ body.HoldsReturn ∧ True) := by
    apply (eat _).reveals
    intro _ _
    extract_lets withFinal
    have hwithFinal (final : List Tree) : RevealsReturns (withFinal final)
        ((∀ b ∈ final, ¬ b.HoldsReturn) ∧ (∀ c ∈ handler, ¬ c.HoldsReturn) ∧
          ¬ body.HoldsReturn ∧ True) := by
      refine ite (fun _ => never (Reads.refuse _ _)) fun _ => nodeOf rfl fun hparts => ?_
      obtain ⟨hbody, hrest⟩ := List.forall_mem_cons.1 hparts
      obtain ⟨hhandler, hfinal⟩ := List.forall_mem_append.1 hrest
      exact ⟨hfinal, hhandler, hbody, trivial⟩
    clear_value withFinal
    refine ite (fun _ => (block h).bind fun b => ?_) fun _ => ?_
    · exact (hwithFinal [b]).mono (fun _ h => h) fun hb =>
        ⟨hb.1 b (List.mem_singleton_self b), hb.2⟩
    · exact (hwithFinal []).mono (fun _ h => h) And.right
  clear_value withHandler
  refine ite (fun _ => (catchClause h).bind fun c => ?_) fun _ => ?_
  · exact (hwithHandler [c]).mono (fun _ h => h) fun hc =>
      ⟨hc.1 c (List.mem_singleton_self c), hc.2⟩
  · exact (hwithHandler []).mono (fun _ h => h) And.right

/-! ## Loops -/

theorem doLoop (h : rules.RevealReturns) : RevealsReturns (Grammar.doLoop rules) True := by
  refine start.reveals fun _ _ => advance.reveals fun _ _ => (bodyStatement h).bind fun body => ?_
  refine (expect _).reveals fun _ _ => (Reads.condition h.sound).reveals fun test _ => ?_
  exact (eat _).reveals fun _ _ => nodeOf rfl fun hparts => by simp_all

theorem whileLoop (h : rules.RevealReturns) : RevealsReturns (Grammar.whileLoop rules) True := by
  refine start.reveals fun _ _ => advance.reveals fun _ _ =>
    (Reads.condition h.sound).reveals fun test _ => ?_
  exact (bodyStatement h).bind fun body => nodeOf rfl fun hparts => by simp_all

theorem countedLoop (h : rules.RevealReturns) {start : Nat} {isAwait : Bool} {init : List Tree} :
    RevealsReturns (Grammar.countedLoop rules start isAwait init) True := by
  unfold Grammar.countedLoop
  extract_lets part
  have hpart (done : Bool) : Passes false (part done) := by
    refine .ite (fun _ => .pure trivial) fun _ => ?_
    exact (Reads.expression h.sound).withIn.passes.seq fun e => .pure trivial
  clear_value part
  refine (expect _).reveals fun _ _ => (at_ _).reveals fun _ _ => (at_ _).reveals fun _ _ => ?_
  refine (hpart _).reveals fun test _ => (expect _).reveals fun _ _ => (at_ _).reveals fun _ _ => ?_
  refine (hpart _).reveals fun update _ => (expect _).reveals fun _ _ => ?_
  extract_lets finish
  have hfinish : RevealsReturns (finish ()) True :=
    (bodyStatement h).bind fun body => nodeOf rfl fun hparts => by simp_all
  clear_value finish
  exact ite (fun _ => (Reads.complain _ _).reveals fun _ _ => hfinish) fun _ => hfinish

theorem elementLoop (h : rules.RevealReturns) {start : Nat} {isAwait : Bool} {left : Tree} :
    RevealsReturns (Grammar.elementLoop rules start isAwait left) True := by
  refine (at_ _).reveals fun isIn _ => advance.reveals fun _ _ => ?_
  extract_lets withRight
  have hwithRight (right : Tree) : RevealsReturns (withRight right) True := by
    apply (expect _).reveals
    intro _ _
    extract_lets finish
    have hfinish : RevealsReturns (finish ()) True := by
      refine (bodyStatement h).bind fun body => nodeOf ?_ fun hparts => by simp_all
      cases isIn <;> rfl
    clear_value finish
    exact ite (fun _ => (Reads.complain _ _).reveals fun _ _ => hfinish) fun _ => hfinish
  clear_value withRight
  refine ite (fun _ => (Reads.expression h.sound).reveals fun right _ => hwithRight right)
    fun _ => ?_
  exact h.sound.assignment.reveals fun right _ => hwithRight right

theorem headedLoop (h : rules.RevealReturns) {start : Nat} {isAwait : Bool} {left : Tree} :
    RevealsReturns (do
      if ← Grammar.atElementLoop then Grammar.elementLoop rules start isAwait left
      else Grammar.countedLoop rules start isAwait [left]) True :=
  Reads.atElementLoop.reveals fun _ _ => ite (fun _ => elementLoop h) fun _ => countedLoop h

theorem declaringLoop (h : rules.RevealReturns) {start : Nat} {isAwait : Bool} :
    RevealsReturns (Grammar.declaringLoop rules start isAwait) True := by
  apply Reads.start.reveals
  intro inside _
  refine ((Reads.declaration h.sound .clause inside).within fun _ _ => rfl).reveals fun d _ => ?_
  exact headedLoop h

theorem usingLoop (h : rules.RevealReturns) {start : Nat} {isAwait : Bool} :
    RevealsReturns (Grammar.usingLoop rules start isAwait) True := by
  refine (Reads.usingDeclaration h.sound true).reveals fun d _ => (at_ _).reveals fun _ _ => ?_
  extract_lets loop_
  have hloop : RevealsReturns (loop_ ()) True := headedLoop h
  clear_value loop_
  exact ite (fun _ => (Reads.complain _ _).reveals fun _ _ => hloop) fun _ => hloop

theorem plainLoop (h : rules.RevealReturns) {start : Nat} {isAwait : Bool} :
    RevealsReturns (Grammar.plainLoop rules start isAwait) True := by
  refine cur.reveals fun first _ => ?_
  refine ((Reads.pure trivial).andM (peekAt _)).reveals fun asyncOf _ => ?_
  refine ((Reads.expression h.sound).within fun _ _ => rfl).reveals fun e he => ?_
  refine Reads.atElementLoop.reveals fun _ _ => ite (fun _ => ?_) fun _ => countedLoop h
  apply ((Reads.assignmentTarget he).orRefuse _ _).reveals
  intro left _
  extract_lets loop_
  have hloop : RevealsReturns (loop_ ()) True := elementLoop h
  clear_value loop_
  exact ite (fun _ => (Reads.complain _ _).reveals fun _ _ => hloop) fun _ => hloop

theorem forStatement (h : rules.RevealReturns) :
    RevealsReturns (Grammar.forStatement rules) True := by
  refine start.reveals fun start _ => advance.reveals fun _ _ =>
    context (fun _ _ => rfl) fun c => ?_
  extract_lets withAwait
  have hwithAwait (isAwait : Bool) : RevealsReturns (withAwait isAwait) True := by
    refine (expect _).reveals fun _ _ => curKind.reveals fun k _ => ?_
    split
    · exact countedLoop h
    · exact countedLoop h
    · exact declaringLoop h
    · exact declaringLoop h
    · exact peekKind.reveals fun _ _ => ite (fun _ => declaringLoop h) fun _ => plainLoop h
    · exact (peekAt _).reveals fun _ _ => ite (fun _ => usingLoop h) fun _ => plainLoop h
    · exact peekKind.reveals fun _ _ => ite (fun _ => usingLoop h) fun _ => plainLoop h
    · exact plainLoop h
  clear_value withAwait
  exact ite (fun _ => (eat _).reveals fun _ _ => hwithAwait _) fun _ => hwithAwait _

/-! ## Statements and scripts -/

theorem labelledOrExpression (h : rules.RevealReturns) :
    RevealsReturns (Grammar.labelledOrExpression rules) True := by
  refine start.reveals fun _ _ => (Reads.expression h.sound).reveals fun e he => ?_
  refine (at_ _).reveals fun _ _ => ite (fun _ => advance.reveals fun _ _ => ?_) fun _ => ?_
  · exact (bodyStatement h).bind fun body => nodeOf rfl fun hparts => by simp_all
  · exact plain (Reads.expressionStatement he)

theorem statement (h : rules.RevealReturns) (inBody : Bool) :
    RevealsReturns (Grammar.statement rules inBody) True := by
  refine start.reveals fun start _ => (Reads.decorators h.sound).reveals fun _ _ => ?_
  refine Reads.atFunction.reveals fun _ _ => ite (fun _ => ?_) fun _ => ?_
  · exact plain (Reads.functionStatement h.sound inBody)
  refine Reads.atUsing.reveals fun _ _ => ite (fun _ => plain (Reads.usingStatement h.sound)) ?_
  refine fun _ => cur.reveals fun t _ => ?_
  have hdeclaration :
      RevealsReturns (Grammar.declaration rules (.statement inBody) t.start) True :=
    plain (Reads.declaration h.sound _ _)
  split
  · exact block h
  · exact plain (Reads.leaf (c := (· == .emptyStatement)) .none rfl)
  · exact ifStatement h
  · exact doLoop h
  · exact whileLoop h
  · exact forStatement h
  · exact plain Reads.jumpStatement
  · exact plain Reads.jumpStatement
  · exact returnStatement h
  · exact withStatement h
  · exact switchStatement h
  · exact plain (Reads.throwStatement h.sound)
  · exact tryStatement h
  · exact plain Reads.debuggerStatement
  · exact plain (Reads.classStatement h.sound inBody start)
  · exact plain (Reads.exportDeclaration h.sound)
  · exact hdeclaration
  · exact hdeclaration
  · exact ite (fun _ => labelledOrExpression h) fun _ => plain (Reads.letStatement h.sound inBody)
  · exact peek.reveals fun _ _ => ite (fun _ => labelledOrExpression h) fun _ =>
      plain Reads.importDeclaration
  · exact labelledOrExpression h

theorem statements (h : rules.RevealReturns) (inBody : Bool) :
    RevealsAllReturns (Grammar.statements rules inBody) True := by
  refine (loop (fun p => ∀ t ∈ p.2, ¬ t.HoldsReturn) fun p => ?_).mono
    (fun _ h => h) fun _ => trivial
  obtain ⟨prologue, items⟩ := p
  refine Reads.atEnd.reveals fun _ _ => (at_ _).reveals fun _ _ =>
    ite (fun _ => pure ?_) fun _ => ?_
  · simp
  · refine h.statement.bind fun s => ite (fun hd => pure ?_) fun _ => pure List.forall_mem_cons.1
    intro hall
    obtain ⟨hs, hitems⟩ := List.forall_mem_cons.1 hall
    exact ⟨not_holdsReturn_of_directive (Bool.and_eq_true_iff.1 hd).2 hs, hitems⟩

theorem program (h : rules.RevealReturns) : RevealsReturns (Grammar.program rules) True := by
  apply cur.reveals
  intro t _
  extract_lets withBang
  have hwithBang (bang : List Tree) : RevealsReturns (withBang bang) True :=
    (statements h false).bind fun items =>
      nodeOf rfl fun hparts => ⟨(List.forall_mem_append.1 hparts).2, trivial⟩
  clear_value withBang
  refine ite (fun _ => ?_) fun _ => hwithBang []
  have hleaf : Reads false (Reader.leaf .hashbang) (·.IsA (· == .hashbang)) := .leaf .none rfl
  exact hleaf.reveals fun b _ => hwithBang [b]

end Reveals

theorem rules_revealReturns (n : Nat) : (Grammar.rules n).RevealReturns := by
  induction n with
  | zero => exact ⟨rules_sound 0, .ofPasses (Q := fun _ => False) (Reads.throw _) nofun⟩
  | succ n ih => exact ⟨rules_sound (n + 1), Reveals.statement ih _⟩

/-- A text that is a script where `return` is permitted is one without the permission exactly if it
has no `return` but those of functions and classes. -/
theorem read_false_iff {text : List Char} {tree : Tree} (h : read true text = .ok tree) :
    read false text = .ok tree ↔ ¬ tree.HoldsReturn := by
  refine ⟨not_holdsReturn_of_read, fun hreturns => ?_⟩
  obtain ⟨t, hrun, hreported⟩ := read_eq_ok.1 h
  have hreveals := Reveals.program (rules_revealReturns (Grammar.depth text))
  obtain ⟨more, _, _, heq⟩ := hreveals.passes _ (tidy_ofText (Context.script false) text) true []
    fun _ => rfl
  rw [relaxed_ofText, hrun] at heq
  cases hstrict : Grammar.program (Grammar.rules (Grammar.depth text))
      (ReadState.ofText (Context.script false) text) with
  | error e u =>
    rw [hstrict] at heq
    cases heq
  | ok a u =>
    rw [hstrict] at heq
    obtain ⟨rfl, _⟩ := EStateM.Result.ok.inj heq
    obtain ⟨_, new, hnew, hsame⟩ :=
      hreveals.same (tidy_ofText _ text) rfl hstrict hreturns
    have hpermitted := hsame []
    rw [relaxed_ofText, hrun] at hpermitted
    obtain ⟨_, rfl⟩ := EStateM.Result.ok.inj hpermitted
    -- what the permitted run ends with are the faults of the other one
    have hall : (u.relaxed true (new ++ [])).allFaults [] = [] := allFaults_eq_nil.1 hreported
    refine read_eq_ok.2 ⟨u, hstrict, allFaults_eq_nil.2 ?_⟩
    rw [ReadState.allFaults, hnew]
    exact hall

end PluginAudit.Script
