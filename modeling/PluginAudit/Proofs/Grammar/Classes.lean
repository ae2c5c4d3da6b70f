import PluginAudit.Proofs.Grammar.Types
import PluginAudit.Script.Grammar.Classes

/-!
# Reading classes
-/

namespace PluginAudit.Script

open Kind PluginAudit.Script.Tree

namespace Reads

variable {x : Bool} {rules : Rules}

/-! ## Heritage -/

theorem interfaceNames (h : rules.Sound) :
    Reads x (Grammar.interfaceNames rules) (AllAre · isType) := by
  refine loop (AllAre · isType) .nil fun items hitems => ?_
  refine start.seq fun _ => dottedName.seq fun _ => (typeArguments h).bind fun types htypes => ?_
  refine (typeNode (htypes.weaken fun _ => isPart_of_isType)).bind fun t ht => ?_
  refine (eat _).seq fun _ => ite (fun _ => againCons ht hitems) fun _ => ?_
  exact doneReversed (hitems.cons ht)

def isHeritage (k : Kind) : Bool := k.isExpression || k.isType

theorem appliedBase (h : rules.Sound) :
    Reads x (Grammar.appliedBase rules) (AllAre · isHeritage) := by
  refine h.operand.bind fun base hbase => (typeArguments h).bind fun types htypes => ?_
  refine pure (.cons (hbase.weaken fun k hk => ?_) (htypes.weaken fun k hk => ?_))
  · rw [isHeritage, hk, Bool.true_or]
  · rw [isHeritage, hk, Bool.or_true]

theorem heritage (h : rules.Sound) : Reads x (Grammar.heritage rules) (AllAre · isHeritage) := by
  refine (loop (Q := fun p => AllAre (p.1.getD []) isHeritage ∧ AllAre p.2 isType)
    (fun p => AllAre (p.1.getD []) isHeritage ∧ AllAre p.2 isType) ⟨.nil, .nil⟩ fun p hp => ?_).bind
    fun all hall => pure (hall.1.append (hall.2.weaken fun k hk => ?_))
  · obtain ⟨base, types⟩ := p
    refine cur.seq fun t => ite (fun _ => ?_) fun _ => ite (fun _ => ?_) fun _ => done hp
    · extract_lets more
      have hmore : Reads x (more ()) (Sum.elim
          (fun p => AllAre (p.1.getD []) isHeritage ∧ AllAre p.2 isType)
          fun p => AllAre (p.1.getD []) isHeritage ∧ AllAre p.2 isType) := by
        refine advance.seq fun _ => (appliedBase h).bind fun first hfirst => ?_
        refine (loop (Q := fun _ => True) (fun _ => True) trivial fun _ _ => ?_).seq fun _ =>
          again ⟨hfirst, hp.2⟩
        refine (eat _).seq fun _ => ite (fun _ => done trivial) fun _ => ?_
        exact (appliedBase h).passes.seq fun _ => again trivial
      clear_value more
      exact ite (fun _ => (refuse _ _).never) fun _ => hmore
    · exact advance.seq fun _ => (interfaceNames h).bind fun ts hts => again ⟨hp.1, hp.2.append hts⟩
  · rw [isHeritage, hk, Bool.or_true]

/-! ## Members -/

theorem fieldValue {value : Reader Tree} (h : Reads x value (·.IsA isExpression)) :
    Reads x (Grammar.fieldValue value) (Content.Fits { optional := [isExpression] }) := by
  refine (eat _).seq fun _ => ite (fun _ => ?_) fun _ => pure .noOptional
  exact h.bind fun v hv => pure (.optional hv .none)

theorem beforeMemberKey (starAllowed : Bool) : Passes x (Grammar.beforeMemberKey starAllowed) :=
  peek.seq fun _ => pure trivial

theorem memberKey (h : rules.Sound) (ms : List Grammar.Modifier) :
    Reads x (Grammar.memberKey rules ms) (·.tree.IsA isMemberKey) := by
  refine (forIn_option fun m _ => (complain _ _).seq fun _ => pure trivial).seq fun _ => ?_
  refine cur.seq fun t => ite (fun _ => privateName.bind fun name hname => ?_) fun _ => ?_
  · extract_lets finish
    have hfinish : Reads x (finish ()) (·.tree.IsA isMemberKey) := pure hname
    clear_value finish
    exact ite (fun _ => (complain _ _).seq fun _ => hfinish) fun _ => hfinish
  · exact (key h).mono fun k hk => hk.weaken fun _ => isMemberKey_of_isExpression

theorem wordOrKey (h : rules.Sound) (ms : List Grammar.Modifier) {counts : Reader Bool}
    (hcounts : Passes x counts) :
    Reads x (Grammar.wordOrKey rules ms counts) fun p => ∀ k ∈ p.2, k.tree.IsA isMemberKey := by
  refine hcounts.seq fun _ => ite (fun _ => advance.seq fun _ => pure nofun) fun _ => ?_
  exact (memberKey h ms).bind fun k hk => pure fun k' hk' => Option.some.inj hk' ▸ hk

theorem memberStatic (h : rules.Sound) (ms : List Grammar.Modifier) :
    Reads x (Grammar.memberStatic rules ms) fun p => ∀ k ∈ p.2, k.tree.IsA isMemberKey :=
  (at_ _).seq fun _ => ite (fun _ => pure nofun) fun _ => wordOrKey h ms (beforeMemberKey true)

theorem memberAsync (h : rules.Sound) (ms : List Grammar.Modifier) {found : Option Grammar.Key}
    (hfound : ∀ k ∈ found, k.tree.IsA isMemberKey) :
    Reads x (Grammar.memberAsync rules ms found) fun p => ∀ k ∈ p.2, k.tree.IsA isMemberKey := by
  refine ((pure trivial).andM ((at_ _).andM ((peekAt _).map fun _ _ => trivial))).seq fun _ => ?_
  refine ite (fun _ => pure hfound) fun _ => wordOrKey h ms ?_
  exact peek.seq fun _ => (beforeMemberKey true).seq fun _ => pure trivial

theorem memberForm : Passes x Grammar.memberForm := by
  refine ((at_ _).andM (beforeMemberKey false)).seq fun _ => ite (fun _ => ?_) fun _ => ?_
  · exact advance.seq fun _ => pure trivial
  refine ((at_ _).andM (beforeMemberKey false)).seq fun _ => ite (fun _ => ?_) fun _ => ?_
  · exact advance.seq fun _ => pure trivial
  exact curKind.seq fun _ => ite (fun _ => unexpected.never) fun _ => pure trivial

theorem memberHead (h : rules.Sound) (ms : List Grammar.Modifier) :
    Reads x (Grammar.memberHead rules ms) (·.key.tree.IsA isMemberKey) := by
  refine (memberStatic h ms).bind fun p hp => (memberAsync h ms hp).bind fun q hq => ?_
  obtain ⟨async, found⟩ := q
  dsimp -zeta only
  extract_lets isStatic async more
  have hmore : Reads x (more ()) (·.key.tree.IsA isMemberKey) := by
    cases found with
    | some key => exact pure (hq key rfl)
    | none =>
      apply (eat _).seq
      intro generator
      extract_lets withForm
      have hwithForm : ∀ form, Reads x (withForm form) (·.key.tree.IsA isMemberKey) :=
        fun form => (memberKey h ms).bind fun k hk => pure hk
      clear_value withForm
      exact ite (fun _ => give (hwithForm _)) fun _ => memberForm.seq hwithForm
  clear_value more
  exact atIndexSignature.seq fun _ => ite (fun _ => indexSignature.never) fun _ => hmore

theorem memberMarks (isAccessor : Bool) : Passes x (Grammar.memberMarks isAccessor) := by
  refine start.seq fun _ => (eat _).seq fun _ => (eat _).seq fun _ => ?_
  extract_lets accessor
  have haccessor : Passes x (accessor ()) := ite (fun _ => complain _ _) fun _ => pure trivial
  clear_value accessor
  exact ite (fun _ => (complain _ _).seq fun _ => haccessor) fun _ => haccessor

theorem checkMethod (head : Grammar.MemberHead) : Passes x (Grammar.checkMethod head) := by
  rw [Grammar.checkMethod]
  refine ite (fun _ => ?_) fun _ => pure trivial
  extract_lets generator async named
  have hgenerator : Passes x (generator ()) := ite (fun _ => complain _ _) fun _ => pure trivial
  have hasync : Passes x (async ()) :=
    ite (fun _ => (complain _ _).seq fun _ => hgenerator) fun _ => hgenerator
  have hnamed : Passes x (named ()) := by
    refine ite (fun _ => ?_) fun _ => pure trivial
    exact ite (fun _ => (complain _ _).seq fun _ => hasync) fun _ => hasync
  clear_value generator async named
  exact ite (fun _ => (complain _ _).seq fun _ => hnamed) fun _ => hnamed

theorem checkField (head : Grammar.MemberHead) : Passes x (Grammar.checkField head) := by
  rw [Grammar.checkField]
  refine ite (fun _ => ?_) fun _ => pure trivial
  extract_lets prototype
  have hprototype : Passes x (prototype ()) := ite (fun _ => complain _ _) fun _ => pure trivial
  clear_value prototype
  exact ite (fun _ => (complain _ _).seq fun _ => hprototype) fun _ => hprototype

theorem staticBlock (h : rules.Sound) {start : Nat} :
    Reads x (Grammar.staticBlock rules start) (·.IsA isClassMember) := by
  apply advance.seq
  intro _
  refine (within_fixed (Q := (AllAre · isStatement)) ?_ fun _ _ => rfl).bind fun items hitems =>
    node (.after hitems) rfl
  apply (expect _).seq
  intro _
  refine (loop (Q := (AllAre · isStatement)) (AllAre · isStatement) .nil fun items hitems => ?_).bind
    fun items hitems => (expect _).seq fun _ => pure hitems
  refine (at_ _).seq fun _ => atEnd.seq fun _ => ite (fun _ => doneReversed hitems) fun _ => ?_
  exact h.statement.bind fun s hs => againCons hs hitems

theorem member (h : rules.Sound) : Reads x (Grammar.member rules) (·.IsA isClassMember) := by
  refine start.seq fun _ => (memberModifiers h).seq fun ms => ?_
  refine ((at_ _).andM (peekAt _)).seq fun _ => ite (fun _ => staticBlock h) fun _ => ?_
  extract_lets isAccessor
  refine (memberHead h ms).bind fun head hhead => (memberMarks _).seq fun _ => ?_
  have hkey := isDecorator_of_isMemberKey hhead.kind
  refine ite (fun _ => ?_) fun _ => ?_
  · refine (fieldValue h.assignment).bind fun value hvalue => takeDecorators.bind fun ds hds => ?_
    exact node (.before hds hkey (.first hhead hvalue)) rfl
  refine (at_ _).seq fun _ => (at_ _).seq fun _ => ite (fun _ => ?_) fun _ => ?_
  · refine (checkMethod head).seq fun _ => takeDecorators.bind fun ds hds => ?_
    apply (method h .method head.async head.generator).bind
    intro f hf
    exact node (.before hds hkey (.first hhead (.first hf .none))) rfl
  · extract_lets field
    have hfield : Reads x (field ()) (·.IsA isClassMember) := by
      refine (checkField head).seq fun _ => takeDecorators.bind fun ds hds => ?_
      refine (fieldValue (expression h)).bind fun value hvalue => semicolon.seq fun _ => ?_
      exact node (.before hds hkey (.first hhead hvalue)) rfl
    clear_value field
    exact ite (fun _ => unexpected.never) fun _ => hfield

theorem members (h : rules.Sound) :
    Reads x (Grammar.members rules) (AllAre · isClassMember) := by
  apply (expect _).seq
  intro _
  refine (loop (Q := (AllAre · isClassMember)) (AllAre · isClassMember) .nil
    fun items hitems => ?_).bind fun all hall => (expect _).seq fun _ => pure hall
  refine (at_ _).seq fun _ => atEnd.seq fun _ => ite (fun _ => doneReversed hitems) fun _ => ?_
  refine (loop (Q := fun _ => True) (fun _ => True) trivial fun _ _ => ?_).seq fun _ => ?_
  · exact (eat _).seq fun _ => ite (fun _ => again trivial) fun _ => done trivial
  · refine (at_ _).seq fun _ => ite (fun _ => doneReversed hitems) fun _ => ?_
    exact (member h).bind fun m hm => againCons hm hitems

theorem classFrom (h : rules.Sound) (place : Place) (start : Nat) :
    Reads x (Grammar.classFrom rules place start) (·.IsA (· == .classDefinition place)) := by
  refine advance.seq fun _ => takeDecorators.bind fun ds hds => ?_
  refine curKind.seq fun _ => (at_ _).seq fun _ => ?_
  extract_lets first named
  have hnamed : ∀ name, AllAre name isPlainName →
      Reads x (named name) (·.IsA (· == .classDefinition place)) := by
    intro name hname
    refine (heritage h).bind fun base hbase => (members h).bind fun all hall => ?_
    refine node (.after (.append (.append (.append (hds.weaken ?_) (hname.weaken ?_))
      (hbase.weaken ?_)) (hall.weaken ?_))) (beq_self_eq_true _)
    · intro k hk
      rw [hk, Bool.true_or, Bool.true_or, Bool.true_or]
    · intro k hk
      rw [isExpression_of_isPlainName hk, Bool.or_true, Bool.true_or, Bool.true_or]
    · intro k hk
      rw [Bool.or_assoc k.isDecorator, show (k.isExpression || k.isType) = true from hk,
        Bool.or_true, Bool.true_or]
    · intro k hk
      rw [hk, Bool.or_true]
  clear_value named
  refine ite (fun _ => ?_) fun _ => give (hnamed _ .nil)
  exact boundName.bind fun n hn => give (hnamed _ (.singleton hn))

end Reads

end PluginAudit.Script
