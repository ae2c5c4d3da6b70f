import PluginAudit.Proofs.Grammar.Patterns
import PluginAudit.Script.Grammar.Functions

/-!
# Reading functions

A body permits `return` wherever it stands, so a function is read alike under both permissions.
-/

namespace PluginAudit.Script

open Kind PluginAudit.Script.Tree

namespace Reads

variable {x : Bool} {rules : Rules}

theorem parameter (h : rules.Sound) :
    Reads x (Grammar.parameter rules) (·.IsA (· == .parameter)) := by
  refine start.seq fun _ => (decorators h).seq fun _ => (patternWithDefault h).bind fun p hp => ?_
  exact takeDecorators.bind fun ds hds => node (.first hp (.after hds)) rfl

theorem parameters (h : rules.Sound) :
    Reads x (Grammar.parameters rules) (·.IsA (· == .parameters)) := by
  refine start.seq fun _ => (expect _).seq fun _ => ?_
  refine (listWithRest (parameter h) (restElement h _)).bind fun p ⟨hitems, hrest⟩ => ?_
  refine (expect _).seq fun _ => node (.after (.append ?_ ?_)) rfl
  · exact hitems.weaken fun k hk => by rw [hk, Bool.true_or]
  · exact hrest.weaken fun k hk => by rw [hk, Bool.or_true]

theorem directive_of_isDirective {t : Tree} (ht : t.IsA isStatement)
    (h : Grammar.isDirective t = true) : (t.withKind .directive).IsA isStatement := by
  rw [Grammar.isDirective] at h
  split at h
  · next s hk hparts =>
    have hfits := ht.wellFormed.fits
    rw [hk, hparts] at hfits
    have hs := hfits.of_cons.1
    have hstring : s.IsA isStringLiteral := by
      refine ⟨hs.wellFormed, ?_⟩
      split at h
      · next hk => rw [hk]; rfl
      · cases h
    rw [withKind, hparts]
    exact .node (.first hstring .none) rfl
  · cases h

theorem statements (h : rules.Sound) (inBody : Bool) :
    Reads true (Grammar.statements rules inBody) (AllAre · isStatement) := by
  refine loop (fun p => AllAre p.2 isStatement) nofun fun p hp => ?_
  obtain ⟨prologue, items⟩ := p
  refine atEnd.seq fun _ => (at_ _).seq fun _ => ite (fun _ => ?_) fun _ => ?_
  · exact done fun t ht => hp t (List.mem_reverse.1 ht)
  · refine h.statement.bind fun s hs => ite (fun hd => ?_) fun _ => ?_
    · exact again (.cons (directive_of_isDirective hs (Bool.and_eq_true_iff.1 hd).2) hp)
    · exact again (.cons hs hp)

theorem functionBody (h : rules.Sound) :
    Reads x (Grammar.functionBody rules) (·.IsA (· == .body)) := by
  refine start.seq fun _ => (expect _).seq fun _ => ?_
  refine ((statements h true).within_fixed fun _ _ => rfl).bind fun items hitems => ?_
  exact (expect _).seq fun _ => node (.after hitems) rfl

theorem functionRest (h : rules.Sound) {place : Place} {start : Nat} {async generator : Bool}
    {name : List Tree} (hname : AllAre name isPlainName) :
    Reads x (Grammar.functionRest rules place start async generator name)
      (·.IsA (· == .function place async generator)) := by
  have hparts : Reads x (do
      let ps ← Grammar.parameters rules
      if !(← Reader.at_ "\x7b") then Reader.unexpected
      return (ps, ← Grammar.functionBody rules))
      fun p => p.1.IsA (· == .parameters) ∧ p.2.IsA (· == .body) := by
    refine (parameters h).bind fun ps hps => (at_ _).seq fun _ => ?_
    extract_lets body
    have hbody : Reads x (body ()) fun p => p.1.IsA (· == .parameters) ∧ p.2.IsA (· == .body) :=
      (functionBody h).bind fun b hb => pure ⟨hps, hb⟩
    clear_value body
    exact ite (fun _ => unexpected.never) fun _ => hbody
  refine (hparts.within fun _ _ => rfl).bind fun p ⟨hps, hb⟩ => ?_
  refine node (.before hname ?_ (.first hps (.first hb .none))) (beq_self_eq_true _)
  rw [eq_of_beq hps.kind]
  rfl

theorem functionName (place : Place) (wanted async generator : Bool) :
    Reads x (Grammar.functionName place wanted async generator) (AllAre · isPlainName) := by
  refine cur.seq fun t => ite (fun _ => ?_) fun _ => ?_
  · extract_lets named
    have hnamed : ∀ n, n.IsA isPlainName → Reads x (named n) (AllAre · isPlainName) :=
      fun n hn => pure (.singleton hn)
    clear_value named
    refine ite (fun _ => ?_) fun _ => checkedName.bind hnamed
    exact (checkedName.within fun _ _ => rfl).bind hnamed
  · extract_lets unnamed
    have hunnamed : Reads x (unnamed ()) (AllAre · isPlainName) := pure nofun
    clear_value unnamed
    refine ite (fun _ => ite (fun _ => ?_) fun _ => ?_) fun _ => hunnamed
    · exact (complain _ _).seq fun _ => hunnamed
    · exact ite (fun _ => (refuse _ _).never) fun _ => hunnamed

theorem functionFrom (h : rules.Sound) (place : Place) (wanted : Bool) (start : Nat) :
    Reads x (Grammar.functionFrom rules place wanted start)
      (·.IsA fun k => k.isFunction place) := by
  refine (eat _).seq fun async => (expect _).seq fun _ => (eat _).seq fun generator => ?_
  apply (functionName place wanted async generator).bind
  intro name hname
  refine (functionRest h hname).mono fun f hf => hf.weaken fun k hk => ?_
  rw [eq_of_beq hk]
  exact beq_self_eq_true _

theorem method (h : rules.Sound) (place : Place) (async generator : Bool) :
    Reads x (Grammar.method rules place async generator) (·.IsA fun k => k.isFunction place) := by
  refine start.seq fun _ => (functionRest h .nil).mono fun f hf => hf.weaken fun k hk => ?_
  rw [eq_of_beq hk]
  exact beq_self_eq_true _

/-! ## Arrow functions -/

theorem guessArrowAfterParen : Passes x Grammar.guessArrowAfterParen := by
  refine cur.seq fun second => ite (fun _ => ?_) fun _ => ite (fun _ => pure trivial) fun _ => ?_
  · exact advance.seq fun _ => cur.seq fun _ => pure trivial
  · extract_lets named
    have hnamed : Passes x (named ()) := by
      refine ite (fun _ => pure trivial) fun _ => advance.seq fun _ => cur.seq fun third => ?_
      refine ite (fun _ => pure trivial) fun _ => ite (fun _ => ?_) fun _ => pure trivial
      exact advance.seq fun _ => curKind.seq fun _ => pure trivial
    clear_value named
    refine ite (fun _ => peek.seq fun _ => ?_) fun _ => hnamed
    exact ite (fun _ => pure trivial) fun _ => hnamed

theorem guessArrow : Passes x Grammar.guessArrow := by
  refine (at_ _).seq fun _ => (at_ _).seq fun _ => ite (fun _ => pure trivial) fun _ => ?_
  refine ahead ((eat _).seq fun _ => ?_)
  extract_lets opened
  have hopened : Passes x (opened ()) := advance.seq fun _ => guessArrowAfterParen
  clear_value opened
  refine ite (fun _ => cur.seq fun t => ?_) fun _ => hopened
  exact ite (fun _ => pure trivial) fun _ => hopened

theorem arrowSign : Passes x Grammar.arrowSign := by
  apply cur.seq
  intro t
  extract_lets sign
  have hsign : Passes x (sign ()) := expect _
  clear_value sign
  exact ite (fun _ => (complain _ _).seq fun _ => hsign) fun _ => hsign

theorem arrowHead (h : rules.Sound) :
    Reads x (Grammar.arrowHead rules) (·.parameters.IsA (· == .parameters)) := by
  refine start.seq fun _ => (eat _).seq fun async => ?_
  refine ((parameters h).within fun _ _ => rfl).bind fun ps hps => ?_
  exact arrowSign.seq fun _ => pure hps

theorem arrowBody (h : rules.Sound) {head : Grammar.ArrowHead}
    (hhead : head.parameters.IsA (· == .parameters)) :
    Reads x (Grammar.arrowBody rules head) (·.IsA isExpression) := by
  have hbody : Reads x (do
      if ← Reader.at_ "\x7b" then Grammar.functionBody rules
      else
        let e ← rules .assignment
        let s := Tree.node .expressionStatement e.start e.stop [e]
        return .node .body e.start e.stop [s]) (·.IsA (· == .body)) := by
    refine (at_ _).seq fun _ => ite (fun _ => functionBody h) fun _ => ?_
    apply h.assignment.bind
    intro e he
    have hs : (Tree.node .expressionStatement e.start e.stop [e]).IsA isStatement :=
      .node (.first he .none) rfl
    exact pure (.node (.after (.singleton hs)) rfl)
  refine (hbody.within fun _ _ => rfl).bind fun b hb => ?_
  exact node (.first hhead (.first hb .none)) rfl

theorem parenthesizedArrow (h : rules.Sound) :
    Reads x (Grammar.parenthesizedArrow rules) fun o => AllAre o.toList isExpression := by
  apply guessArrow.seq
  intro guess
  cases guess with
  | no => exact pure .nil
  | yes =>
    refine (arrowHead h).bind fun head hhead => (arrowBody h hhead).bind fun t ht => ?_
    exact pure (.singleton ht)
  | perhaps =>
    refine start.seq fun _ => look (fun _ _ _ => rfl) fun s => ite (fun _ => pure .nil) fun _ => ?_
    apply (arrowHead h).attempt.bind
    intro o ho
    cases o with
    | some head =>
      apply (arrowBody h (ho head rfl)).bind
      intro t ht
      exact pure (.singleton ht)
    | none =>
      refine seq ?_ fun _ => pure .nil
      exact modifies (fun _ => rfl) (fun _ => rfl) (fun _ => rfl) fun _ _ _ => rfl

theorem arrowAfterName (h : rules.Sound) {start : Nat} {async : Bool} {name : Tree}
    (hname : name.IsA isPlainName) :
    Reads x (Grammar.arrowAfterName rules start async name) (·.IsA isExpression) := by
  have hp : (Tree.node .parameter name.start name.stop [name]).IsA (· == .parameter) := by
    refine .node (.first (hname.weaken fun k hk => ?_) (.after nofun)) rfl
    exact isBindingElement_of_isPattern (isPattern_of_isPlainName hk)
  refine arrowSign.seq fun _ => arrowBody h (.node (.after (.singleton ?_)) rfl)
  exact hp.weaken fun k hk => by rw [hk, Bool.true_or]

theorem atAsyncName : Passes x Grammar.atAsyncName := by
  refine (at_ _).seq fun _ => ite (fun _ => pure trivial) fun _ => ?_
  refine ahead (advance.seq fun _ => cur.seq fun t => ite (fun _ => pure trivial) fun _ => ?_)
  exact ite (fun _ => pure trivial) fun _ => advance.seq fun _ => at_ _

end Reads

end PluginAudit.Script
