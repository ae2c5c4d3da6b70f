import PluginAudit.Proofs.Grammar.Faults
import PluginAudit.Proofs.Reader.Standing

/-!
# Reading calls

How the rules go over names, templates, calls and parentheses to the sign that ends an expression.
-/

namespace PluginAudit.Script

open ReadState

/-- No expression goes on at such a token. -/
def EndsExpression (k : TokenKind) : Prop := k = .sign ")" ∨ k = .sign ";"

/-- Calls without arguments, `n` in a row. -/
def calls : Nat → List Char
  | 0 => []
  | n + 1 => '(' :: ')' :: calls n

theorem le_length_calls (n : Nat) : n ≤ (calls n).length := by
  induction n with
  | zero => exact Nat.le_refl 0
  | succ n ih => exact Nat.succ_le_succ (ih.trans (Nat.le_succ _))

section

variable {b u : List Char} (hb : ∀ d ∈ b, Lexer.isGap d = true)

include hb in
theorem lexes_single {c : Char} {sign : String} (hc : Lexer.beginsSign c = true)
    (htoken : Lexer.isGap c = false ∧ c ≠ '/' ∧ c ≠ '<' ∧ c ≠ '-')
    (hsign : Lexer.signAt? (c :: u) = some sign) (hlist : sign.toList = [c]) :
    Lexes (b ++ c :: u) (.sign sign) u :=
  lexes_sign hb hc (Lexer.beginsToken_cons htoken) hsign (by rw [hlist]; rfl)

theorem lexes_open : Lexes ('(' :: u) (.sign "(") u :=
  lexes_single (b := []) nofun (by decide) (by decide) rfl rfl

theorem lexes_close : Lexes (')' :: u) (.sign ")") u :=
  lexes_single (b := []) nofun (by decide) (by decide) rfl rfl

theorem lexes_semicolon : Lexes (';' :: u) (.sign ";") u :=
  lexes_single (b := []) nofun (by decide) (by decide) rfl rfl

end

variable {rules : Rules} {s : ReadState} {k : TokenKind} {u rest : List Char}

/-! ## At a sign that ends an expression -/

theorem memberRest_run {start : Nat} {o : Grammar.Operand} (h : StandsAt k rest s)
    (hk : k = .sign "(" ∨ EndsExpression k) :
    Grammar.memberRest rules start o s = .ok o s := by
  obtain ⟨offset, limit, hlimit, hscan⟩ := h.scan
  obtain ⟨n, rfl⟩ := Nat.exists_eq_succ_of_ne_zero (Nat.ne_zero_of_lt hlimit)
  have hkind := h.token.kind
  obtain ⟨_, _, _, ⟨_, _, _, _, _, _, _⟩, _, _, _, _, _⟩ := s
  subst hscan hkind
  rcases hk with hk | hk | hk <;> subst hk <;> rfl

theorem atTemplate_run :
    Grammar.atTemplate s =
      .ok (s.token.kind == .template .whole || s.token.kind == .template .head) s := rfl

theorem binaryRest_run {min start : Nat} {first : Tree} (h : StandsAt k rest s)
    (hk : EndsExpression k) : Grammar.binaryRest rules min start first s = .ok first s := by
  obtain ⟨offset, limit, hlimit, hscan⟩ := h.scan
  obtain ⟨n, rfl⟩ := Nat.exists_eq_succ_of_ne_zero (Nat.ne_zero_of_lt hlimit)
  have hkind := h.token.kind
  obtain ⟨_, _, _, ⟨_, _, _, _, _, _, _⟩, _, _, _, _, _⟩ := s
  subst hscan hkind
  rcases hk with hk | hk <;> subst hk <;> rfl

/-- Parentheses around a function or a template are no parameters. -/
theorem guessArrow_run_first {v w : List Char} (h : StandsAt (.sign "(") v s)
    (hv : Lexes v k w) (hk : k = .word "function" ∨ k = .template .whole) :
    Grammar.guessArrow s = .ok .no s := by
  have hfirst := (h.advance hv).1
  have hguess : Grammar.guessArrowAfterParen s.advance = .ok .no s.advance := by
    rw [eq_withKind hfirst.token.kind]
    rcases hk with rfl | rfl <;> rfl
  exact guessArrow_run_open h.token.kind h.token.plain hguess
    (h.rewind_eq hfirst decorators_advance notArrow_advance)

/-- Parentheses around a call are no parameters. -/
theorem guessArrow_run_call {v w : List Char} (h : StandsAt (.sign "(") v s)
    (hv : Lexes v .name ('(' :: w)) : Grammar.guessArrow s = .ok .no s := by
  have hname := (h.advance hv).1
  have hcall := (hname.advance lexes_open).1
  have hguess : Grammar.guessArrowAfterParen s.advance = .ok .no s.advance.advance := by
    have hkind := hname.token.kind
    have hkind' := hcall.token.kind
    simp [Grammar.guessArrowAfterParen, bind_apply, cur_run, Token.is, TokenKind.is,
      TokenKind.isOneOf, TokenKind.isModifier, TokenKind.isVariable, hkind, hkind',
      advance_run hname.token.plain, pure_run]
  refine guessArrow_run_open h.token.kind h.token.plain hguess (h.rewind_eq hcall ?_ ?_)
  · rw [decorators_advance, decorators_advance]
  · rw [notArrow_advance, notArrow_advance]

namespace Gives

/-! ## Calls -/

theorem arguments (h : StandsAt (.sign "(") (')' :: u) s) :
    GoesTo u (Grammar.arguments rules) s := by
  refine within ?_
  refine bind (expect (h.context _)) fun _ t _ ht _ => ?_
  have hclose := (ht lexes_close).1
  refine after (list_none hclose) ?_
  exact bind (expect hclose) fun _ v _ hv _ => pure trivial hv

theorem iterate_calls {σ α : Type} {step : σ → Reader (σ ⊕ α)}
    (hcall : ∀ {n o s}, StandsAt (.sign "(") (')' :: (calls n ++ u)) s →
      Gives (fun x => ∃ o', x = .inl o') (calls n ++ u) (step o) s)
    (hend : ∀ {o s}, StandsBefore u s → Gives (fun x => ∃ a, x = .inr a) u (step o) s)
    {n m : Nat} (hm : n < m) {o : σ} (h : StandsBefore (calls n ++ u) s) :
    GoesTo u (Reader.iterate step m o) s := by
  induction n generalizing m o s with
  | zero =>
    obtain ⟨m, rfl⟩ := Nat.exists_eq_succ_of_ne_zero (Nat.ne_zero_of_lt hm)
    refine bind (hend h) fun x t hx ht _ => ?_
    obtain ⟨a, rfl⟩ := hx
    exact pure trivial ht
  | succ n ih =>
    obtain ⟨m, rfl⟩ := Nat.exists_eq_succ_of_ne_zero (Nat.ne_zero_of_lt hm)
    refine again (hcall (h lexes_open).1) fun o' t ht _ => ?_
    exact ih (Nat.lt_of_succ_lt_succ hm) ht

theorem callRest {n start : Nat} {o : Grammar.Operand} (h : StandsBefore (calls n ++ u) s)
    (hu : Lexes u k rest) (hk : EndsExpression k) :
    GoesTo u (Grammar.callRest rules start o) s := by
  have hlength : (calls n ++ u).length < s.scan.limit := by
    cases n with
    | zero => exact (h hu).2
    | succ n => exact (h lexes_open).2
  have hlimit : n < s.scan.limit := by
    rw [List.length_append] at hlength
    exact ((le_length_calls n).trans (Nat.le_add_right _ _)).trans_lt hlength
  refine after limit_run (iterate_calls (fun {n o s} h => ?_) (fun {o s} hs => ?_) hlimit h)
  · refine after (memberRest_run h (.inl rfl)) ?_
    refine after (eat_run_none (h.is "?.")) ?_
    refine after atTemplate_run ?_
    rw [Bool.false_and, if_neg Bool.false_ne_true]
    refine after at_run ?_
    rw [if_pos h.is_sign]
    refine bind (arguments h) fun args t _ ht _ => ?_
    exact bind (node ht) fun e t _ ht _ => pure ⟨_, rfl⟩ ht
  · have h := (hs hu).1
    have hopen : k.is "?." = false ∧ k.is "(" = false := by
      rcases hk with rfl | rfl <;> decide
    refine after (memberRest_run h (.inr hk)) ?_
    refine after (eat_run_none ((h.is "?.").trans hopen.1)) ?_
    refine after atTemplate_run ?_
    rw [Bool.false_and, if_neg Bool.false_ne_true]
    refine after at_run ?_
    rw [(h.is "(").trans hopen.2, if_neg Bool.false_ne_true]
    exact pure ⟨_, rfl⟩ hs

/-! ## Expressions -/

variable {n : Nat}

theorem operand (h : GoesTo (calls n ++ u) (rules .primary) s) (hu : Lexes u k rest)
    (hk : EndsExpression k) : GoesTo u (Grammar.operand rules) s := by
  refine after start_run ?_
  refine bind h fun e t _ ht _ => ?_
  exact bind (callRest ht hu hk) fun o v _ hv _ => pure trivial hv

theorem unary {outer : Nat} (hunary : s.token.kind.isUnary = false)
    (hupdate : s.token.kind.isUpdate = false) (hawait : s.token.is "await" = false)
    (h : GoesTo u (rules .operand) s) (hu : Lexes u k rest) (hk : EndsExpression k) :
    GoesTo u (Grammar.unary rules outer) s := by
  refine after cur_run ?_
  rw [hunary, if_neg Bool.false_ne_true]
  refine after (atAwait_run hawait) ?_
  rw [if_neg Bool.false_ne_true]
  refine after cur_run ?_
  rw [hupdate, if_neg Bool.false_ne_true]
  refine bind h fun e t _ ht _ => ?_
  have hend : t.token.kind.isUpdate = false := by
    rw [(ht hu).1.token.kind]
    rcases hk with rfl | rfl <;> decide
  refine after cur_run ?_
  rw [hend, Bool.false_and, if_neg Bool.false_ne_true]
  exact pure trivial ht

theorem binaryExpression {min : Nat} (hkind : s.token.kind ≠ .privateName)
    (h : ∀ start, GoesTo u (rules (.unary start)) s) (hu : Lexes u k rest)
    (hk : EndsExpression k) : GoesTo u (Grammar.binaryExpression rules min) s := by
  refine after start_run (after context_run (after curKind_run ?_))
  rw [beq_false_of_ne hkind, Bool.and_false, if_neg Bool.false_ne_true]
  refine bind (h _) fun e t _ ht _ => ?_
  exact ⟨e, t, binaryRest_run (ht hu).1 hk, trivial, ht, rfl⟩

theorem assignmentExpression (hyield : s.token.is "yield" = false)
    (hasync : s.token.is "async" = false)
    (harrow : Grammar.parenthesizedArrow rules s = .ok none s)
    (h : GoesTo u (rules (.binary 0)) s) (hu : Lexes u k rest) (hk : EndsExpression k) :
    GoesTo u (Grammar.assignmentExpression rules) s := by
  refine after (atYield_run hyield) ?_
  rw [if_neg Bool.false_ne_true]
  refine after harrow ?_
  refine after start_run ?_
  refine after (atAsyncName_run hasync) ?_
  rw [if_neg Bool.false_ne_true]
  refine bind h fun e t _ ht _ => ?_
  have hend : k.is "=>" = false ∧ k.is "?" = false ∧ k.isAssignment = false := by
    rcases hk with rfl | rfl <;> decide
  have hat := (ht hu).1
  refine after at_run ?_
  rw [hat.is, hend.1, Bool.and_false, if_neg Bool.false_ne_true]
  refine after cur_run ?_
  rw [hat.token.kind, hend.2.2, if_neg Bool.false_ne_true]
  refine after (eat_run_none ((hat.is "?").trans hend.2.1)) ?_
  exact pure trivial ht

/-- An operand alone, with its calls, is an expression. -/
theorem assignment_of_primary {m : Nat} {k' : TokenKind} (hkind : s.token.kind = k')
    (hk' : Fails.BeginsPrimary k') (hguess : Grammar.guessArrow s = .ok .no s)
    (h : GoesTo (calls n ++ u) (Grammar.primary (Grammar.rules m)) s) (hu : Lexes u k rest)
    (hk : EndsExpression k) : GoesTo u (Grammar.rules (m + 5) .assignment) s := by
  subst hkind
  obtain ⟨hunary, hupdate, hawait, hyield, hasync, hprivate⟩ := hk'
  have hoperand : GoesTo u (Grammar.rules (m + 2) .operand) s := operand h hu hk
  have hbinary : GoesTo u (Grammar.rules (m + 4) (.binary 0)) s :=
    binaryExpression hprivate (fun _ => unary hunary hupdate hawait hoperand hu hk) hu hk
  exact assignmentExpression hyield hasync (parenthesizedArrow_run hguess) hbinary hu hk

theorem expression (hcomma : k.is "," = false) (hu : Lexes u k rest)
    (h : GoesTo u (rules .assignment)
      { s with context := { s.context with inDecorator := false } }) :
    GoesTo u (Grammar.expression rules) s := by
  refine after start_run (after context_run ?_)
  refine step modify_run rfl ?_
  refine bind h fun e t _ ht _ => ?_
  refine after at_run ?_
  rw [(ht hu).1.is, hcomma]
  exact pure trivial ht

/-! ## Operands -/

theorem name (h : StandsAt .name u s) : GoesTo u (Grammar.primary rules) s := by
  have hname : Grammar.variableName s =
      .ok (.node (.name s.token.raw) s.token.start s.token.stop []) s.advance := by
    have hvariable : s.token.kind.isVariable = true := by rw [h.token.kind]; rfl
    simp only [Grammar.variableName, bind_apply, curKind_run, hvariable, if_true,
      checkedName_run h.token.await h.token.yield]
  exact ⟨_, _, (primary_run_name h.token.kind).trans hname, trivial, h.advance,
    by rw [context_advance]⟩

theorem template (h : StandsAt (.template .whole) u s) : GoesTo u (Grammar.primary rules) s := by
  have hpiece : Grammar.templatePiece false s =
      .ok (.node .templateText (s.token.start + 1) s.token.stop []) s.advance := by
    simp [Grammar.templatePiece, bind_apply, cur_run, advance_run h.token.plain,
      h.token.template rfl, pure_run]
  have hwhole : (s.token.kind == .template .whole) = true := by
    rw [h.token.kind]
    exact beq_self_eq_true _
  refine of_run (primary_run_template h.token.kind) (after start_run (after curKind_run ?_))
  refine step hpiece (by rw [context_advance]) ?_
  rw [hwhole]
  exact node h.advance

theorem parenthesized {v w : List Char} (h : StandsAt (.sign "(") v s) (hv : Lexes v k w)
    (hclose : k.is ")" = false) (hend : k ≠ .endOfText) (hw : w ≠ [])
    (hinner : ∀ c, c.allowReturn = s.context.allowReturn →
      GoesTo (')' :: u) (rules .assignment) { s.advance with context := c }) :
    GoesTo u (Grammar.primary rules) s := by
  refine of_run (primary_run_open h.token.kind) (after start_run ?_)
  refine step (expect_run h.is_sign h.token.plain) (by rw [context_advance]) ?_
  have hlist := list_one ((h.advance hv).1.context _) hclose hend hw lexes_close
    (hinner { s.context with allowIn := true, inDecorator := false } rfl)
  rw [← context_advance] at hlist
  refine bind (within hlist) fun es t hes ht _ => ?_
  obtain ⟨e, rfl⟩ := hes
  refine after pure_run ?_
  exact bind (expect (ht lexes_close).1) fun _ t _ ht _ => node ht

end Gives

end PluginAudit.Script
