import PluginAudit.Proofs.Plugin.CallTexts
import PluginAudit.Proofs.Plugin.CleanTexts

/-!
# Hashbangs in the wrapper

A text may begin with `#!`, but not in the wrapper, whose opening stands before it.
-/

namespace PluginAudit.Plugin

open Script Text

/-! ## The wrapper before a hashbang -/

section

variable {k : TokenKind} {u : List Char} {s : ReadState}

theorem unknown_of_hash (h : StandsAt k ('\n' :: '#' :: '!' :: u) s) :
    s.advance.token.kind = .unknown ∧ s.advance.scan.limit ≠ 0 := by
  obtain ⟨offset, limit, hlimit, hscan⟩ := h.scan
  obtain ⟨n, rfl⟩ := Nat.exists_eq_succ_of_ne_zero (Nat.ne_zero_of_lt hlimit)
  have hblanks : Lexer.blanks (n + 1) false ⟨'\n' :: '#' :: '!' :: u, offset, [], none, n + 1⟩ =
      (true, ⟨'#' :: '!' :: u, offset + 1, [], none, n + 1⟩) := by
    rw [Lexer.blanks_cons (by decide)]
    exact Lexer.blanks_stop (Lexer.beginsToken_cons (by decide))
  have hbang : isNameStart '!' = false ∧ '!' ≠ '\\' := by decide
  obtain ⟨hkind, hlimit⟩ := Lexer.token_hash
    (s := ⟨'\n' :: '#' :: '!' :: u, offset, [], none, n + 1⟩)
    (Nat.succ_ne_zero offset) hbang hblanks
  rw [advance_of_ahead_nil h.ahead, hscan]
  exact ⟨hkind, ne_of_eq_of_ne hlimit (Nat.succ_ne_zero n)⟩

/-- A text that begins with `#!` is refused in the wrapper, whatever the edition. -/
theorem refusedForGrammar_hashbang (text : List Char) :
    RefusedForGrammar ('#' :: '!' :: text) .wrapped := by
  refine refusedForGrammar_iff.2 (not_read_wrap fun m t c ht _ => ?_)
  obtain ⟨hkind, hlimit⟩ := unknown_of_hash ht
  refine Fails.statements ?_ ?_ hlimit (Fails.statement_of_beginsNothing (.inl hkind))
  · rw [Token.is, hkind]
    rfl
  · rw [hkind]
    exact TokenKind.noConfusion

end

/-! ## Refusals of clean texts -/

section

variable {text : List Char} {edition : Edition} {tree : Tree}

def IsRefusal (r : Except SyntaxProblem Accepted) : Prop :=
  ∃ p, r = .error p ∧ p.cause.isGrammar = true

theorem isRefusal_attempt_iff {a : Attempt} :
    IsRefusal (attempt text edition a) ↔ RefusedForGrammar text a := by
  constructor
  · rintro ⟨p, hp, hgrammar⟩
    obtain ⟨cause, offset, hcheck, rfl⟩ := attempt_eq_error.1 hp
    exact refusedForGrammar_iff.2 (fullCheck_isGrammar_iff.1 ⟨cause, offset, hcheck, hgrammar⟩)
  · exact fun h => h edition

/-- A clean text passes as it stands if it does not return outside functions and uses nothing newer
than the edition. -/
theorem not_passes_iff (h : read true text = .ok tree) :
    ¬ Passes text edition ↔
      tree.HoldsReturn ∨ ∃ f ∈ tree.findings, edition < f.feature.edition := by
  have hpasses : Passes text edition ↔
      ¬ tree.HoldsReturn ∧ Finding.firstAbove? edition tree.findings = none := by
    constructor
    · rintro ⟨tree', hread, habove⟩
      obtain rfl := Except.ok.inj (h.symm.trans (read_true_of_read_false hread))
      exact ⟨(read_false_iff h).1 hread, habove⟩
    · rintro ⟨hreturns, habove⟩
      exact ⟨tree, (read_false_iff h).2 hreturns, habove⟩
  rw [hpasses, Finding.firstAbove?_eq_none]
  simp only [Classical.not_and_iff_not_or_not, Classical.not_not, Classical.not_forall, exists_prop]

theorem isRefusal_accept_iff (h : read true text = .ok tree) :
    IsRefusal (accept text edition) ↔
      if hasReturnLine text then
        (tree.HoldsReturn ∨ ∃ f ∈ tree.findings, edition < f.feature.edition) ∧
          RefusedForGrammar text .wrapped
      else tree.HoldsReturn := by
  rw [← not_passes_iff h, ← refusedForGrammar_bare_iff h, accept]
  cases hbare : acceptBare text edition with
  | ok r =>
    have hpasses := (acceptBare_eq_ok.1 hbare).2
    have hrefused : ¬ RefusedForGrammar text .bare := by
      intro hrefused
      obtain ⟨p, hp, _⟩ := hrefused edition
      cases hbare.symm.trans hp
    simp [IsRefusal, hpasses, hrefused]
  | error p =>
    have hfails : ¬ Passes text edition := fun hpasses => by
      cases hbare.symm.trans (acceptBare_eq_ok.2 ⟨rfl, hpasses⟩)
    simp only [hfails, not_false_eq_true, true_and]
    split
    · exact isRefusal_attempt_iff
    · exact (Iff.of_eq (congrArg IsRefusal hbare.symm)).trans isRefusal_attempt_iff

theorem isRefusal_judge_iff {header : Header} :
    (∃ p, judge header text = .syntaxInvalid p ∧ p.cause.isGrammar = true) ↔
      if header.category.singleEntryPoint then
        (scanEntryPoints text).count = 1 ∧ RefusedForGrammar text .wrapped
      else IsRefusal (accept text header.edition) := by
  rw [judge]
  split
  · rw [← EntryScan.enforce_isOk_iff]
    cases (scanEntryPoints text).enforce with
    | error p => simp
    | ok r =>
      simp only [ofAttempt_eq_syntaxInvalid, Except.ok.injEq, exists_eq', true_and]
      exact isRefusal_attempt_iff
  · simp only [ofAttempt_eq_syntaxInvalid]
    rfl

/-- A text that is a script where `return` is permitted is refused for its grammar as it stands
exactly if it returns outside functions, and in the wrapper, at every edition, if it begins with
`#!`. So where a line begins with `return (`, it is refused for its grammar although it only uses
something newer than the edition. -/
theorem clean_text_refused_iff (h : read true text = .ok tree) :
    (RefusedForGrammar text .bare ↔ tree.HoldsReturn) ∧
    (['#', '!'] <+: text → RefusedForGrammar text .wrapped) ∧
    (∀ edition, IsRefusal (accept text edition) ↔
      if hasReturnLine text then
        (tree.HoldsReturn ∨ ∃ f ∈ tree.findings, edition < f.feature.edition) ∧
          RefusedForGrammar text .wrapped
      else tree.HoldsReturn) ∧
    ∀ header, (∃ p, judge header text = .syntaxInvalid p ∧ p.cause.isGrammar = true) ↔
      if header.category.singleEntryPoint then
        (scanEntryPoints text).count = 1 ∧ RefusedForGrammar text .wrapped
      else IsRefusal (accept text header.edition) := by
  refine ⟨refusedForGrammar_bare_iff h, ?_, fun edition => isRefusal_accept_iff h,
    fun header => isRefusal_judge_iff⟩
  rintro ⟨rest, rfl⟩
  exact refusedForGrammar_hashbang rest

/-- Call statements pass in the wrapper. So where they are read there, they are refused for what
they use and for nothing else. -/
theorem calls_not_refused (h : CallsUpTo [] text) :
    (∃ tree, read true text = .ok tree) ∧ ¬ RefusedForGrammar text .wrapped ∧
    (hasReturnLine text = true → ∀ edition, ¬ IsRefusal (accept text edition)) ∧
    ∀ header, header.category.singleEntryPoint = true →
      ¬ ∃ p, judge header text = .syntaxInvalid p ∧ p.cause.isGrammar = true := by
  obtain ⟨tree, hread⟩ := exists_read_calls h
  have hwrapped : ¬ RefusedForGrammar text .wrapped := by
    obtain ⟨tree', hwrap⟩ := exists_read_wrap_calls h
    exact fun hrefused => refusedForGrammar_iff.1 hrefused tree' hwrap
  refine ⟨⟨tree, hread⟩, hwrapped, fun hline edition => ?_, fun header hsingle => ?_⟩
  · rw [isRefusal_accept_iff hread, if_pos hline]
    exact fun hrefused => hwrapped hrefused.2
  · rw [isRefusal_judge_iff, if_pos hsingle]
    exact fun hrefused => hwrapped hrefused.2

end

/-- A script of a hashbang alone. -/
theorem hashbang_text_refused :
    (∃ tree, read true "#!x".toList = .ok tree) ∧
      ∀ edition, IsRefusal (acceptWrapped "#!x".toList edition) := by
  obtain ⟨tree, hread, _⟩ := exists_read true "#!x".toList (fun _ => true) (by decide +kernel)
  exact ⟨⟨tree, hread⟩, refusedForGrammar_hashbang ['x']⟩

theorem clean_text_refused_hashbang :
    ∃ tree, read true "#!x".toList = .ok tree ∧ RefusedForGrammar "#!x".toList .wrapped := by
  obtain ⟨tree, hread, _⟩ := exists_read true "#!x".toList (fun _ => true) (by decide +kernel)
  exact ⟨tree, hread, (clean_text_refused_iff hread).2.1 ⟨['x'], rfl⟩⟩

/-- What stands between the parentheses is first read as parameters, where `await` is an operator
and a regular expression follows. Only the wrapper has the brace that ends the function there, and
the property `a`, once complete, is left over. -/
theorem guessed_parameters_refused :
    let text := "async (x = await / '/ + \x7ba = function()\x7b //' )".toList
    (∃ tree, read true text = .ok tree) ∧ RefusedForGrammar text .wrapped := by
  intro text
  obtain ⟨tree, hread, _⟩ := exists_read true text (fun _ => true) (by decide +kernel)
  exact ⟨⟨tree, hread⟩, refusedForGrammar_iff.2 (not_read (by decide +kernel))⟩

end PluginAudit.Plugin
