import PluginAudit.Proofs.Reader.Steps
import PluginAudit.Script.Grammar.Basic

/-!
# Reading names, literals and keys

Each rule of the grammar gets one lemma, named like the rule, on what it reads. `Rules.Sound` is
what they need to know of the rules they call.
-/

namespace PluginAudit.Script

open Kind PluginAudit.Script.Tree

/-- Every rule reads trees of its own class. Only statements can see whether `return` may stand. -/
structure Rules.Sound (rules : Rules) : Prop where
  assignment : ∀ {x}, Reads x (rules .assignment) (·.IsA isExpression)
  binary : ∀ {x min}, Reads x (rules (.binary min)) (·.IsA isExpression)
  unary : ∀ {x start}, Reads x (rules (.unary start)) (·.IsA isExpression)
  operand : ∀ {x}, Reads x (rules .operand) (·.IsA isExpression)
  primary : ∀ {x}, Reads x (rules .primary) (·.IsA isExpression)
  pattern : ∀ {x}, Reads x (rules .pattern) (·.IsA isPattern)
  type : ∀ {x conditional}, Reads x (rules (.type conditional)) (·.IsA isType)
  statement : ∀ {inBody}, Reads true (rules (.statement inBody)) (·.IsA isStatement)

namespace Reads

variable {x : Bool} {rules : Rules}

/-! ## Names and literals -/

theorem nameLeaf : Reads x Grammar.nameLeaf (·.IsA isPlainName) :=
  cur.seq fun _ => advanceName.seq fun _ => pure (.node .none rfl)

theorem checkName (value : Option String) (offset : Nat) :
    Passes x (Grammar.checkName value offset) := by
  refine context (fun _ _ => rfl) fun c => ?_
  extract_lets last
  have hlast : Passes x (last ()) :=
    ite (fun _ => complain _ _) fun _ => pure trivial
  clear_value last
  exact ite (fun _ => (complain _ _).seq fun _ => hlast) fun _ => hlast

theorem checkedName : Reads x Grammar.checkedName (·.IsA isPlainName) :=
  cur.seq fun _ => nameLeaf.bind fun _ hname => (checkName _ _).seq fun _ => pure hname

theorem variableName : Reads x Grammar.variableName (·.IsA isPlainName) :=
  curKind.seq fun _ => ite (fun _ => checkedName) fun _ => unexpected

theorem boundName : Reads x Grammar.boundName (·.IsA isPlainName) := by
  refine cur.seq fun t => ite (fun _ => checkedName) fun _ => ?_
  split
  · exact refuse _ _
  · exact unexpected

theorem label : Reads x Grammar.label (·.IsA isPlainName) := by
  refine curKind.seq fun k => context (fun _ _ => rfl) fun c => ?_
  exact ite (fun _ => checkedName) fun _ => unexpected

theorem nameText : Reads x Grammar.nameText (·.IsA isPlainName) :=
  curKind.seq fun _ => ite (fun _ => nameLeaf) fun _ => unexpected

theorem wordLeaf : Reads x Grammar.wordLeaf (·.IsA isPlainName) :=
  cur.seq fun _ => advance.seq fun _ => pure (.node .none rfl)

theorem privateName : Reads x Grammar.privateName (·.IsA isMemberKey) :=
  cur.seq fun _ => leaf .none rfl

theorem stringLiteral : Reads x Grammar.stringLiteral (·.IsA isStringLiteral) :=
  cur.seq fun _ => ite (fun _ => leaf .none rfl) fun _ => unexpected

theorem numberLiteral : Reads x Grammar.numberLiteral (·.IsA isNumberLiteral) := by
  apply cur.seq
  intro t
  by_cases h : t.raw.getLast? == some 'n'
  · rw [if_pos h]
    exact leaf .none rfl
  · rw [if_neg h]
    exact leaf .none rfl

/-! ## Keys and expressions -/

theorem key (h : rules.Sound) : Reads x (Grammar.key rules) (·.tree.IsA isExpression) := by
  refine cur.seq fun t => ite (fun _ => ?_) fun _ => ite (fun _ => ?_) fun _ =>
    ite (fun _ => ?_) fun _ => ?_
  · exact stringLiteral.bind fun s hs => pure (hs.weaken fun _ => isExpression_of_isStringLiteral)
  · exact numberLiteral.bind fun n hn => pure (hn.weaken fun _ => isExpression_of_isNumberLiteral)
  · exact advance.seq fun _ => h.assignment.withIn.bind fun e he =>
      (expect _).seq fun _ => pure he
  · exact nameText.bind fun n hn => pure (hn.weaken fun _ => isExpression_of_isPlainName)

theorem expression (h : rules.Sound) :
    Reads x (Grammar.expression rules) (·.IsA isExpression) := by
  refine start.seq fun start => context (fun _ _ => rfl) fun outer => ?_
  refine (setContext fun _ _ => rfl).seq fun _ => h.assignment.bind fun first hfirst => ?_
  refine (at_ ",").seq fun comma => ite (fun _ => pure hfirst) fun _ => ?_
  refine (loop (Q := (AllAre · isExpression)) (AllAre · isExpression) (.singleton hfirst)
    fun items hitems => ?_).bind fun all hall => ?_
  · refine (eat ",").seq fun more => ite (fun _ => ?_) fun _ => doneReversed hitems
    exact h.assignment.bind fun e he => againCons he hitems
  extract_lets finish
  have hfinish : Reads x (finish ()) (·.IsA isExpression) :=
    node (.after hall) rfl
  clear_value finish
  exact ite (fun _ => (setContext fun _ _ => rfl).seq fun _ => hfinish) fun _ => hfinish

theorem condition (h : rules.Sound) : Reads x (Grammar.condition rules) (·.IsA isExpression) :=
  (expect _).seq fun _ => (expression h).bind fun _ he => (expect _).seq fun _ => pure he

theorem atFunction : Passes x Grammar.atFunction := by
  refine (at_ _).seq fun _ => ite (fun _ => pure trivial) fun _ => ?_
  refine (at_ _).seq fun _ => ite (fun _ => pure trivial) fun _ => ?_
  exact peek.seq fun _ => pure trivial

/-! ## Decorators -/

theorem decorator (h : rules.Sound) : Reads x (Grammar.decorator rules) (·.IsA isDecorator) := by
  refine start.seq fun start => advance.seq fun _ => ?_
  refine (h.operand.within fun _ _ => rfl).bind fun e he => ?_
  exact node (.first he .none) rfl

theorem modifiesDecorators {f : List Tree → List Tree}
    (hf : ∀ ds, AllAre ds isDecorator → AllAre (f ds) isDecorator) :
    Passes x (modify fun s => { s with decorators := f s.decorators } : Reader Unit) := by
  intro s hs b fs _
  exact ⟨[], trivial, ReadState.Leads.refl (hf _ hs) rfl rfl, rfl⟩

theorem decorators (h : rules.Sound) : Passes x (Grammar.decorators rules) := by
  refine (at_ _).seq fun _ => ite (fun _ => pure trivial) fun _ => ?_
  refine (loop (Q := (AllAre · isDecorator)) (AllAre · isDecorator) .nil fun items hitems => ?_).bind
    fun all hall => modifiesDecorators fun _ _ => hall
  refine (at_ _).seq fun _ => ite (fun _ => doneReversed hitems) fun _ => ?_
  exact (decorator h).bind fun d hd => againCons hd hitems

theorem moreDecorators (h : rules.Sound) : Passes x (Grammar.moreDecorators rules) := by
  refine loop (fun _ => True) trivial fun found _ => ?_
  refine (at_ _).seq fun _ => ite (fun _ => done trivial) fun _ => ?_
  apply (decorator h).attempt.bind
  intro o ho
  cases o with
  | none => exact done trivial
  | some d =>
    refine (modifiesDecorators (f := (· ++ [d])) fun ds hds => ?_).seq fun _ => again trivial
    exact hds.append (.singleton (ho d rfl))

theorem takeDecorators : Reads x Grammar.takeDecorators (AllAre · isDecorator) := by
  intro s hs b fs _
  exact ⟨[], hs, ReadState.Leads.refl nofun rfl rfl, rfl⟩

end Reads

end PluginAudit.Script
