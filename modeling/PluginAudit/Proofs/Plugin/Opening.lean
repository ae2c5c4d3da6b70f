import PluginAudit.Plugin.Acceptance
import PluginAudit.Proofs.Grammar.CallStatements

/-!
# Reading the wrapper

The wrapper is a call of a function in parentheses. What comes of reading it is what comes of
reading the statements of its body.
-/

namespace PluginAudit.Plugin

open Script

variable {k : TokenKind} {b u body : List Char} {s : ReadState} {m : Nat}

/-- The wrapper's opening behind its parenthesis, before a body. -/
def openingBefore (body : List Char) : List Char :=
  "function".toList ++ ' ' :: ("__plugin_entry__".toList ++ '(' :: ')' :: ' ' :: '\x7b' :: body)

/-! ## Tokens -/

theorem lexes_function : Lexes (openingBefore body) (.word "function")
    (' ' :: ("__plugin_entry__".toList ++ '(' :: ')' :: ' ' :: '\x7b' :: body)) :=
  lexes_name (b := []) (c := 'f') (w := "unction".toList) nofun (by decide)
    (Lexer.beginsToken_cons (by decide)) (List.all_eq_true.1 (by decide))
    (endsName_cons (by decide)) (by decide) (by decide)

theorem lexes_plugin_entry :
    Lexes (' ' :: ("__plugin_entry__".toList ++ '(' :: u)) .name ('(' :: u) :=
  lexes_name (c := '_') (w := "_plugin_entry__".toList) (allGap_singleton rfl) (by decide)
    (Lexer.beginsToken_cons (by decide)) (List.all_eq_true.1 (by decide))
    (endsName_cons (by decide)) (by decide) (by decide)

theorem lexes_brace : Lexes (' ' :: '\x7b' :: u) (.sign "\x7b") u :=
  lexes_single (allGap_singleton rfl) (by decide) (by decide) rfl rfl

theorem lexes_closing (hb : AllGap b) :
    Lexes (b ++ wrapperClosing) (.sign "\x7d") [')', '(', ')', ';'] := by
  have hnewline : AllGap (b ++ ['\n']) := List.forall_mem_append.2 ⟨hb, allGap_singleton rfl⟩
  have hlexes : Lexes ((b ++ ['\n']) ++ wrapperClosing.tail) (.sign "\x7d") [')', '(', ')', ';'] :=
    lexes_single hnewline (by decide) (by decide) rfl rfl
  rwa [List.append_assoc] at hlexes

/-! ## The function -/

variable {rules : Rules}

/-- The reader goes on to a closing brace, with `u` behind it. -/
def GoesToBrace {α : Type} (u : List Char) (r : Reader α) (s : ReadState) : Prop :=
  ∃ w, Lexes w (.sign "\x7d") u ∧ GoesTo w r s

theorem goesTo_body (h : StandsAt (.sign "\x7b") body s)
    (hbody : ∀ c, c.allowReturn = true →
      GoesToBrace u (Grammar.statements rules true) { s.advance with context := c }) :
    GoesTo u (Grammar.functionBody rules) s := by
  obtain ⟨w, hw, hgoes⟩ := hbody { s.advance.context with allowReturn := true } rfl
  refine Gives.after start_run ?_
  refine Gives.step (expect_run h.is_sign h.token.plain) (by rw [context_advance]) ?_
  refine Gives.bind (Gives.within hgoes) fun items t _ ht _ => ?_
  exact Gives.bind (Gives.expect (ht hw).1) fun _ t _ ht _ => Gives.node ht

theorem goesTo_function {start : Nat}
    (h : StandsAt (.word "function")
      (' ' :: ("__plugin_entry__".toList ++ '(' :: ')' :: ' ' :: '\x7b' :: body)) s)
    (hbody : ∀ t c, StandsAt (.sign "\x7b") body t → c.allowReturn = true →
      GoesToBrace u (Grammar.statements rules true) { t.advance with context := c }) :
    GoesTo u (Grammar.functionFrom rules .expression false start) s := by
  have hname := (h.advance lexes_plugin_entry).1
  refine Gives.after (eat_run_none (h.is "async")) ?_
  refine Gives.step (expect_run (h.is "function") h.token.plain) (by rw [context_advance]) ?_
  refine Gives.after (eat_run_none (hname.is "*")) ?_
  refine Gives.step (functionName_run hname.token.kind hname.token.await hname.token.yield)
    (by rw [context_advance]) ?_
  refine Gives.bind (Q := fun _ => True) (Gives.within ?_) fun _ t _ ht _ => Gives.node ht
  have hopen := (hname.advance lexes_open).1.context
    { s.advance.advance.context with allowIn := true, inAsync := false, inGenerator := false }
  have hclose := (hopen.advance lexes_close).1
  have hbrace := (hclose.advance lexes_brace).1
  refine Gives.step (parameters_run hopen.is_sign hopen.token.plain hclose.is_sign
    hclose.token.plain hclose.limit_ne_zero) (by rw [context_advance, context_advance]) ?_
  refine Gives.after at_run ?_
  rw [hbrace.is_sign, if_neg (by decide)]
  exact Gives.bind (goesTo_body hbrace fun c hc => hbody _ c hbrace hc) fun _ t _ ht _ =>
    Gives.pure trivial ht

theorem guessArrow_run_wrapper (h : StandsAt (.sign "(") (openingBefore body) s) :
    Grammar.guessArrow s = .ok .no s :=
  guessArrow_run_first h lexes_function (.inl rfl)

section

variable (hbody : ∀ t c, StandsAt (.sign "\x7b") body t → c.allowReturn = true →
  GoesToBrace (')' :: u) (Grammar.statements (Grammar.rules m) true)
    { t.advance with context := c })
include hbody

theorem goesTo_functionExpression
    (h : StandsAt (.word "function")
      (' ' :: ("__plugin_entry__".toList ++ '(' :: ')' :: ' ' :: '\x7b' :: body)) s) :
    GoesTo (')' :: u) (Grammar.rules (m + 5) .assignment) s := by
  have hguess : Grammar.guessArrow s = .ok .no s := guessArrow_run (h.is "(") (h.is "async")
  exact Gives.assignment_of_primary (n := 0) h.token.kind Fails.beginsPrimary_function hguess
    (Gives.of_run (primary_run_function h.token.kind) (goesTo_function h hbody)) lexes_close
    (.inl rfl)

end

/-- Where the statements of the body are read to the wrapper's closing, the wrapper is read to its
end. -/
theorem goesTo_wrapper
    (hbody : ∀ t c, StandsAt (.sign "\x7b") body t → c.allowReturn = true →
      GoesToBrace [')', '(', ')', ';'] (Grammar.statements (Grammar.rules m) true)
        { t.advance with context := c })
    (h : StandsAt (.sign "(") (openingBefore body) s) :
    GoesTo [] (Grammar.program (Grammar.rules (m + 11))) s := by
  have hinner := h.context { s.context with inDecorator := false }
  have hprimary : GoesTo (calls 1 ++ [';']) (Grammar.primary (Grammar.rules (m + 5)))
      { s with context := { s.context with inDecorator := false } } :=
    Gives.parenthesized hinner lexes_function rfl nofun (List.cons_ne_nil _ _) fun c _ =>
      goesTo_functionExpression hbody ((hinner.advance lexes_function).1.context c)
  have hassignment : GoesTo [';'] (Grammar.rules (m + 10) .assignment)
      { s with context := { s.context with inDecorator := false } } :=
    Gives.assignment_of_primary h.token.kind Fails.beginsPrimary_open
      (guessArrow_run_wrapper hinner) hprimary lexes_semicolon (.inr rfl)
  have hlabelled : GoesTo [] (Grammar.labelledOrExpression (Grammar.rules (m + 10))) s :=
    Gives.labelledOrExpression (Gives.expression (k := .sign ";") rfl lexes_semicolon hassignment)
  have hstatement : Grammar.statement (Grammar.rules (m + 10)) false s =
      Grammar.labelledOrExpression (Grammar.rules (m + 10)) s :=
    Fails.statement_run_expression (.inr h.token.kind)
  have hhashbang : s.token.kind ≠ .hashbang := by
    rw [h.token.kind]
    nofun
  exact Gives.program hhashbang (Gives.statements h (List.cons_ne_nil _ _) rfl
    (Gives.of_run hstatement hlabelled) (lexes_end nofun) rfl)

/-! ## Faults in the body -/

section

variable (hbody : ∀ t c, StandsAt (.sign "\x7b") body t → c.allowReturn = true →
  Fails (Grammar.statements (Grammar.rules m) true) { t.advance with context := c })
include hbody

theorem fails_function {start : Nat}
    (h : StandsAt (.word "function")
      (' ' :: ("__plugin_entry__".toList ++ '(' :: ')' :: ' ' :: '\x7b' :: body)) s) :
    Fails (Grammar.functionFrom (Grammar.rules m) .expression false start) s := by
  have hname := (h.advance lexes_plugin_entry).1
  have hopen := (hname.advance lexes_open).1
  have hclose := (hopen.advance lexes_close).1
  have hbrace := (hclose.advance lexes_brace).1
  refine Fails.functionFrom h.token.kind h.token.plain hname.token.kind hname.token.await
    hname.token.yield fun name => ?_
  refine Fails.functionRest hopen.is_sign hopen.token.plain hclose.is_sign hclose.token.plain
    hclose.limit_ne_zero hbrace.is_sign ?_
  have hinner := hbrace.context { s.advance.advance.context with
    allowIn := true, inAsync := false, inGenerator := false }
  exact Fails.functionBody hinner.is_sign hinner.token.plain (hbody _ _ hinner rfl)

theorem fails_functionExpression
    (h : StandsAt (.word "function")
      (' ' :: ("__plugin_entry__".toList ++ '(' :: ')' :: ' ' :: '\x7b' :: body)) s) :
    Fails (Grammar.rules (m + 5) .assignment) s := by
  have hprimary : Fails (Grammar.primary (Grammar.rules m)) s :=
    Fails.primary_function h.token.kind fun start => fails_function hbody h
  exact Fails.assignment_of_primary h.token.kind Fails.beginsPrimary_function
    (guessArrow_run (h.is "(") (h.is "async")) hprimary

/-- Where the statements of the body cannot be read, the wrapper cannot be read. -/
theorem fails_wrapper (h : StandsAt (.sign "(") (openingBefore body) s) :
    Fails (Grammar.program (Grammar.rules (m + 11))) s := by
  have hprimary : ∀ c, Fails (Grammar.primary (Grammar.rules (m + 5))) { s with context := c } := by
    intro c
    have hfunction := ((h.context c).advance lexes_function).1
    refine Fails.primary_open h.token.kind (Fails.parenthesizedExpression h.token.kind
      h.token.plain (hfunction.is ")") ?_ hfunction.limit_ne_zero
      (fails_functionExpression hbody (hfunction.context _)))
    rw [hfunction.token.kind]
    nofun
  have hstatement : Fails (Grammar.rules (m + 11) (.statement false)) s :=
    Fails.statement_of_primary (.inr h.token.kind) (fun c => guessArrow_run_wrapper (h.context c))
      hprimary
  refine Fails.program ?_ (Fails.statements (h.is "\x7d") ?_ h.limit_ne_zero hstatement)
  · rw [h.token.kind]
    nofun
  · rw [h.token.kind]
    nofun

end

/-! ## The text in the wrapper -/

section

variable {text : List Char}

theorem exists_depth (full : List Char) : ∃ n, Grammar.depth full = n + 22 := by
  refine ⟨Grammar.depth full - 22, ?_⟩
  rw [Grammar.depth]
  omega

theorem standsAt_wrap (c : Context) (text : List Char) :
    StandsAt (.sign "(") (openingBefore ('\n' :: (text ++ wrapperClosing)))
      (ReadState.ofText c (wrap text)) :=
  (standsBefore_ofText c (wrap text) lexes_open).1

theorem not_read_wrap
    (hbody : ∀ m t c, StandsAt (.sign "\x7b") ('\n' :: (text ++ wrapperClosing)) t →
      c.allowReturn = true →
      Fails (Grammar.statements (Grammar.rules (m + 11)) true) { t.advance with context := c })
    (tree : Tree) : read false (wrap text) ≠ .ok tree := by
  obtain ⟨n, hn⟩ := exists_depth (wrap text)
  refine Fails.read ?_ tree
  rw [hn]
  exact fails_wrapper (hbody n) (standsAt_wrap _ text)

theorem exists_read_wrap
    (hbody : ∀ m t c, StandsAt (.sign "\x7b") ('\n' :: (text ++ wrapperClosing)) t →
      c.allowReturn = true → GoesToBrace [')', '(', ')', ';']
        (Grammar.statements (Grammar.rules (m + 11)) true) { t.advance with context := c }) :
    ∃ tree, read false (wrap text) = .ok tree := by
  obtain ⟨n, hn⟩ := exists_depth (wrap text)
  refine exists_read_of_goesTo (b := []) nofun ?_
  rw [hn]
  exact goesTo_wrapper (hbody n) (standsAt_wrap _ text)

end

end PluginAudit.Plugin
