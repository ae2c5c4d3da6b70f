import Mathlib.Tactic.FinCases
import PluginAudit.Proofs.Grammar.Program
import PluginAudit.Proofs.Reader.Runs

/-!
# Faults below the rules

Each rule that begins with another one fails where that one does, unless the token asks for
something else.
-/

namespace PluginAudit.Script

open ReadState

/-! ## Names and empty parentheses -/

section

variable {s : ReadState} {rules : Rules}

theorem nameLeaf_run :
    Grammar.nameLeaf s =
      .ok (.node (.name s.token.raw) s.token.start s.token.stop []) s.advance := by
  simp only [Grammar.nameLeaf, bind_apply, cur_run, advanceName_run, pure_run]

theorem checkName_run {value : Option String} {offset : Nat} (hawait : value ≠ some "await")
    (hyield : value ≠ some "yield") : Grammar.checkName value offset s = .ok () s := by
  simp [Grammar.checkName, bind_apply, context_run, pure_run, hawait, hyield]

theorem checkedName_run (hawait : s.token.value ≠ some "await")
    (hyield : s.token.value ≠ some "yield") :
    Grammar.checkedName s =
      .ok (.node (.name s.token.raw) s.token.start s.token.stop []) s.advance := by
  simp only [Grammar.checkedName, bind_apply, cur_run, nameLeaf_run,
    checkName_run hawait hyield, pure_run]

theorem functionName_run {async generator : Bool} (h : s.token.kind = .name)
    (hawait : s.token.value ≠ some "await") (hyield : s.token.value ≠ some "yield") :
    Grammar.functionName .expression false async generator s =
      .ok [.node (.name s.token.raw) s.token.start s.token.stop []] s.advance := by
  have hvariable : s.token.kind.isVariable = true := by rw [h]; rfl
  have hname := checkedName_run
    (s := { s with context := { s.context with inAsync := async, inGenerator := generator } })
    hawait hyield
  simp only [Grammar.functionName, bind_apply, cur_run, ite_run, hvariable, if_true,
    Reader.within, hname, advance_context, beq_self_eq_true, pure_run]
  rw [← context_advance]

theorem guessArrow_run (hopen : s.token.is "(" = false) (hasync : s.token.is "async" = false) :
    Grammar.guessArrow s = .ok .no s := by
  simp [Grammar.guessArrow, bind_apply, at_run, hopen, hasync, pure_run]

theorem atAwait_run (h : s.token.is "await" = false) : Grammar.atAwait s = .ok false s := by
  simp [Grammar.atAwait, bind_apply, at_run, h, pure_run]

theorem atYield_run (h : s.token.is "yield" = false) : Grammar.atYield s = .ok false s := by
  simp [Grammar.atYield, bind_apply, at_run, h, pure_run]

theorem atAsyncName_run (h : s.token.is "async" = false) :
    Grammar.atAsyncName s = .ok false s := by
  simp [Grammar.atAsyncName, bind_apply, at_run, h, pure_run]

theorem guessArrow_run_open {t : ReadState} (hopen : s.token.kind = .sign "(")
    (hplain : s.token.escaped = false)
    (hguess : Grammar.guessArrowAfterParen s.advance = .ok .no t) (hrewind : t.rewind s = s) :
    Grammar.guessArrow s = .ok .no s := by
  have hat : s.token.is "(" = true := by rw [Token.is, hopen]; rfl
  have hasync : s.token.is "async" = false := by rw [Token.is, hopen]; rfl
  simp [Grammar.guessArrow, bind_apply, at_run, hat, Reader.ahead, eat_run_none hasync,
    advance_run hplain, hguess, hrewind]

theorem parenthesizedArrow_run (h : Grammar.guessArrow s = .ok .no s) :
    Grammar.parenthesizedArrow rules s = .ok none s := by
  simp [Grammar.parenthesizedArrow, bind_apply, h, pure_run]

theorem listWithRest_run {close : String} {element rest : Reader Tree}
    (h : s.token.is close = true) (hlimit : s.scan.limit ≠ 0) :
    Grammar.listWithRest close element rest s = .ok ([], none) s := by
  obtain ⟨n, hn⟩ := Nat.exists_eq_succ_of_ne_zero hlimit
  simp [Grammar.listWithRest, Reader.loop, bind_apply, limit_run, hn, Reader.iterate, at_run,
    atEnd_run, h, pure_run]

theorem parameters_run (hopen : s.token.is "(" = true) (hplain : s.token.escaped = false)
    (hclose : s.advance.token.is ")" = true) (hplain' : s.advance.token.escaped = false)
    (hlimit : s.advance.scan.limit ≠ 0) :
    Grammar.parameters rules s =
      .ok (.node .parameters s.token.start s.advance.advance.lastStop [])
        s.advance.advance := by
  simp [Grammar.parameters, bind_apply, start_run, expect_run hopen hplain,
    listWithRest_run hclose hlimit, expect_run hclose hplain', node_run]

/-! ## The rules that tokens ask for -/

theorem primary_run_name (h : s.token.kind = .name) :
    Grammar.primary rules s = Grammar.variableName s := by
  rw [eq_withKind h]
  rfl

theorem primary_run_template (h : s.token.kind = .template .whole) :
    Grammar.primary rules s = Grammar.templateLiteral rules false s := by
  rw [eq_withKind h]
  rfl

theorem primary_run_open (h : s.token.kind = .sign "(") :
    Grammar.primary rules s = Grammar.parenthesizedExpression rules s := by
  rw [eq_withKind h]
  rfl

theorem primary_run_function (h : s.token.kind = .word "function") :
    Grammar.primary rules s =
      Grammar.functionFrom rules .expression false s.token.start s := by
  rw [eq_withKind h]
  rfl

end

/-- Signs that nothing in a script begins with. -/
def idleSigns : List String :=
  [")", "]", ",", ":", "=>", "===", "==", "=", "**=", "**", "*=", "*", "%=", "%", "&&=", "&&", "&=",
   "&", "||=", "||", "|=", "|", "??=", "??", "?.", "?", "^=", "^", ">"]

namespace Fails

variable {s : ReadState} {rules : Rules}

/-! ## Expressions -/

theorem variableName (h : s.token.kind.isVariable = false) : Fails Grammar.variableName s := by
  apply after curKind_run
  rw [h]
  exact unexpected

/-- Nothing begins with a token of this kind. -/
def BeginsNothing (k : TokenKind) : Prop := k = .unknown ∨ ∃ sign ∈ idleSigns, k = .sign sign

theorem primary_of_beginsNothing (hkind : BeginsNothing s.token.kind) :
    Fails (Grammar.primary rules) s := by
  have hvariable : s.token.kind.isVariable = false := by
    rcases hkind with hkind | ⟨sign, _, hkind⟩ <;> rw [hkind] <;> rfl
  have hprimary : Grammar.primary rules s = Grammar.variableName s := by
    rcases hkind with hkind | ⟨sign, hsign, hkind⟩ <;> rw [eq_withKind hkind]
    · rfl
    · fin_cases hsign <;> rfl
  rw [Fails, hprimary]
  exact variableName hvariable

theorem primary_function (hkind : s.token.kind = .word "function")
    (h : ∀ start, Fails (Grammar.functionFrom rules .expression false start) s) :
    Fails (Grammar.primary rules) s := by
  rw [Fails, primary_run_function hkind]
  exact h _

theorem primary_open (hkind : s.token.kind = .sign "(")
    (h : Fails (Grammar.parenthesizedExpression rules) s) : Fails (Grammar.primary rules) s := by
  rw [Fails, primary_run_open hkind]
  exact h

theorem parenthesizedExpression (hkind : s.token.kind = .sign "(")
    (hplain : s.token.escaped = false) (hclose : s.advance.token.is ")" = false)
    (hend : s.advance.token.kind ≠ .endOfText) (hlimit : s.advance.scan.limit ≠ 0)
    (h : Fails (rules .assignment)
      { s.advance with context := { s.context with allowIn := true, inDecorator := false } }) :
    Fails (Grammar.parenthesizedExpression rules) s := by
  have hopen : s.token.is "(" = true := by rw [Token.is, hkind]; rfl
  apply after start_run
  apply after (expect_run hopen hplain)
  apply bind
  apply within
  rw [context_advance]
  exact list hclose hend hlimit h

theorem operand (h : Fails (rules .primary) s) : Fails (Grammar.operand rules) s :=
  after start_run h.bind

theorem unary {outer : Nat} (hunary : s.token.kind.isUnary = false)
    (hupdate : s.token.kind.isUpdate = false) (hawait : s.token.is "await" = false)
    (h : Fails (rules .operand) s) : Fails (Grammar.unary rules outer) s := by
  apply after cur_run
  rw [hunary]
  apply after (atAwait_run hawait)
  apply after cur_run
  rw [hupdate]
  exact h.bind

theorem binaryExpression {min : Nat} (hkind : s.token.kind ≠ .privateName)
    (h : ∀ start, Fails (rules (.unary start)) s) :
    Fails (Grammar.binaryExpression rules min) s := by
  apply after start_run
  apply after context_run
  apply after curKind_run
  rw [beq_false_of_ne hkind, Bool.and_false]
  exact (h _).bind

theorem assignmentExpression (hyield : s.token.is "yield" = false)
    (hasync : s.token.is "async" = false)
    (harrow : Grammar.parenthesizedArrow rules s = .ok none s)
    (h : Fails (rules (.binary 0)) s) : Fails (Grammar.assignmentExpression rules) s := by
  apply after (atYield_run hyield)
  apply after harrow
  apply after start_run
  apply after (atAsyncName_run hasync)
  exact h.bind

/-- A kind of token that begins a primary expression and no operation around one. -/
def BeginsPrimary (k : TokenKind) : Prop :=
  k.isUnary = false ∧ k.isUpdate = false ∧ k.is "await" = false ∧ k.is "yield" = false ∧
    k.is "async" = false ∧ k ≠ .privateName

theorem beginsPrimary_open : BeginsPrimary (.sign "(") := ⟨rfl, rfl, rfl, rfl, rfl, nofun⟩

theorem beginsPrimary_function : BeginsPrimary (.word "function") :=
  ⟨rfl, rfl, rfl, rfl, rfl, nofun⟩

theorem assignment_of_primary {n : Nat} {k : TokenKind} (hkind : s.token.kind = k)
    (hk : BeginsPrimary k) (hguess : Grammar.guessArrow s = .ok .no s)
    (h : Fails (Grammar.primary (Grammar.rules n)) s) :
    Fails (Grammar.rules (n + 5) .assignment) s := by
  subst hkind
  obtain ⟨hunary, hupdate, hawait, hyield, hasync, hprivate⟩ := hk
  have hoperand : Fails (Grammar.rules (n + 2) .operand) s := operand h
  have hbinary : Fails (Grammar.rules (n + 4) (.binary 0)) s :=
    binaryExpression hprivate fun _ => unary hunary hupdate hawait hoperand
  exact assignmentExpression hyield hasync (parenthesizedArrow_run hguess) hbinary

theorem expression
    (h : Fails (rules .assignment) { s with context := { s.context with inDecorator := false } }) :
    Fails (Grammar.expression rules) s := by
  apply after start_run
  apply after context_run
  apply after modify_run
  exact h.bind

/-! ## Functions -/

theorem functionBody (hopen : s.token.is "\x7b" = true) (hplain : s.token.escaped = false)
    (h : Fails (Grammar.statements rules true)
      { s.advance with context := { s.context with allowReturn := true } }) :
    Fails (Grammar.functionBody rules) s := by
  rw [← context_advance] at h
  apply after start_run
  apply after (expect_run hopen hplain)
  exact h.within.bind

theorem functionRest {place : Place} {start : Nat} {async generator : Bool} {name : List Tree}
    (hopen : s.token.is "(" = true) (hplain : s.token.escaped = false)
    (hclose : s.advance.token.is ")" = true) (hplain' : s.advance.token.escaped = false)
    (hlimit : s.advance.scan.limit ≠ 0) (hbody : s.advance.advance.token.is "\x7b" = true)
    (h : Fails (Grammar.functionBody rules) { s.advance.advance with
      context := { s.context with allowIn := true, inAsync := async, inGenerator := generator } }) :
    Fails (Grammar.functionRest rules place start async generator name) s := by
  let c : Context :=
    { s.context with allowIn := true, inAsync := async, inGenerator := generator }
  have hnext : ReadState.advance { s with context := c } = { s.advance with context := c } :=
    advance_context c
  have hafter : ReadState.advance { s.advance with context := c } =
      { s.advance.advance with context := c } := advance_context c
  have hparameters : Grammar.parameters rules { s with context := c } = _ :=
    parameters_run hopen hplain (by rw [hnext]; exact hclose) (by rw [hnext]; exact hplain')
      (by rw [hnext]; exact hlimit)
  rw [hnext, hafter] at hparameters
  apply bind
  apply within
  apply after hparameters
  apply after at_run
  change Fails (if (!s.advance.advance.token.is "\x7b") = true then _ else _) _
  rw [hbody]
  exact h.bind

theorem functionFrom {start : Nat} (hkind : s.token.kind = .word "function")
    (hplain : s.token.escaped = false) (hname : s.advance.token.kind = .name)
    (hawait : s.advance.token.value ≠ some "await")
    (hyield : s.advance.token.value ≠ some "yield")
    (h : ∀ name, Fails (Grammar.functionRest rules .expression start false false name)
      s.advance.advance) :
    Fails (Grammar.functionFrom rules .expression false start) s := by
  have hasync : s.token.is "async" = false := by rw [Token.is, hkind]; rfl
  have hfunction : s.token.is "function" = true := by rw [Token.is, hkind]; rfl
  have hstar : s.advance.token.is "*" = false := by rw [Token.is, hname]; rfl
  apply after (eat_run_none hasync)
  apply after (expect_run hfunction hplain)
  apply after (eat_run_none hstar)
  apply after (functionName_run hname hawait hyield)
  exact h _

/-! ## Statements -/

theorem labelledOrExpression (h : Fails (Grammar.expression rules) s) :
    Fails (Grammar.labelledOrExpression rules) s :=
  after start_run h.bind

theorem beginsPrimary_of_beginsNothing {k : TokenKind} (hk : BeginsNothing k) :
    BeginsPrimary k := by
  rcases hk with rfl | ⟨sign, hsign, rfl⟩
  · exact ⟨rfl, rfl, rfl, rfl, rfl, nofun⟩
  · fin_cases hsign <;> exact ⟨rfl, rfl, rfl, rfl, rfl, nofun⟩

theorem statement_run_expression {inBody : Bool}
    (hkind : BeginsNothing s.token.kind ∨ s.token.kind = .sign "(") :
    Grammar.statement rules inBody s = Grammar.labelledOrExpression rules s := by
  rcases hkind with (hkind | ⟨sign, hsign, hkind⟩) | hkind <;> rw [eq_withKind hkind]
  · rfl
  · fin_cases hsign <;> rfl
  · rfl

theorem statement {inBody : Bool}
    (hkind : BeginsNothing s.token.kind ∨ s.token.kind = .sign "(")
    (h : Fails (Grammar.labelledOrExpression rules) s) :
    Fails (Grammar.statement rules inBody) s := by
  rw [Fails, statement_run_expression hkind]
  exact h

theorem statement_of_primary {inBody : Bool} {n : Nat}
    (hkind : BeginsNothing s.token.kind ∨ s.token.kind = .sign "(")
    (hguess : ∀ c, Grammar.guessArrow { s with context := c } = .ok .no { s with context := c })
    (h : ∀ c, Fails (Grammar.primary (Grammar.rules n)) { s with context := c }) :
    Fails (Grammar.rules (n + 6) (.statement inBody)) s := by
  have hbegins : BeginsPrimary s.token.kind := by
    rcases hkind with hkind | hkind
    · exact beginsPrimary_of_beginsNothing hkind
    · rw [hkind]
      exact beginsPrimary_open
  have hassignment : Fails (Grammar.rules (n + 5) .assignment)
      { s with context := { s.context with inDecorator := false } } :=
    assignment_of_primary rfl hbegins (hguess _) (h _)
  exact statement hkind (labelledOrExpression (expression hassignment))

/-- No statement can be read where nothing begins. -/
theorem statement_of_beginsNothing {inBody : Bool} {n : Nat} (hkind : BeginsNothing s.token.kind) :
    Fails (Grammar.rules (n + 6) (.statement inBody)) s := by
  have hnot : s.token.kind.is "(" = false ∧ s.token.kind.is "async" = false := by
    rcases hkind with hkind | ⟨sign, hsign, hkind⟩ <;> rw [hkind]
    · exact ⟨rfl, rfl⟩
    · fin_cases hsign <;> exact ⟨rfl, rfl⟩
  exact statement_of_primary (.inl hkind) (fun _ => guessArrow_run hnot.1 hnot.2) fun _ =>
    primary_of_beginsNothing hkind

theorem statements {inBody : Bool} (hclose : s.token.is "\x7d" = false)
    (hend : s.token.kind ≠ .endOfText) (hlimit : s.scan.limit ≠ 0)
    (h : Fails (rules (.statement false)) s) : Fails (Grammar.statements rules inBody) s := by
  apply loop hlimit
  apply after atEnd_run
  apply after at_run
  have hgoesOn : (s.token.kind == .endOfText || (inBody && s.token.is "\x7d")) = false := by
    simp [hclose, hend]
  rw [hgoesOn]
  exact h.bind

theorem program (hkind : s.token.kind ≠ .hashbang) (h : Fails (Grammar.statements rules false) s) :
    Fails (Grammar.program rules) s := by
  apply after cur_run
  rw [beq_false_of_ne hkind]
  exact h.bind

theorem read {allowReturn : Bool} {text : List Char}
    (h : Fails (Grammar.program (Grammar.rules (Grammar.depth text)))
      (ReadState.ofText (Context.script allowReturn) text)) (tree : Tree) :
    Script.read allowReturn text ≠ .ok tree := by
  obtain ⟨f, t, h⟩ := h
  simp [Script.read, h]

end Fails

end PluginAudit.Script
