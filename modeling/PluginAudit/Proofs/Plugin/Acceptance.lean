import PluginAudit.Plugin.Verdict
import PluginAudit.Proofs.Grammar.Program

/-!
# What is accepted

An attempt accepts a text exactly if what it reads is a script within the edition. `accept`,
`acceptWrapped` and `judge` come down to this.
-/

namespace PluginAudit.Plugin

open Script

theorem edition_le_newest (e : Edition) : ¬ Edition.es2024 < e := by
  cases e <;> decide

/-- A script that uses nothing newer than an edition, as far as findings tell. -/
def Passes (full : List Char) (edition : Edition) : Prop :=
  ∃ tree, read false full = .ok tree ∧ Finding.firstAbove? edition tree.findings = none

theorem fullCheck_eq_none {full : List Char} {edition : Edition} :
    fullCheck full edition = none ↔ Passes full edition := by
  rw [fullCheck, Passes]
  split
  · next h => simp [h]
  · next h => simp [h]
  · next tree h => simp [h]

theorem attempt_eq_ok {text : List Char} {edition : Edition} {a : Attempt} {r : Accepted} :
    attempt text edition a = .ok r ↔
      r = ⟨edition, a == .wrapped⟩ ∧ Passes (a.text text) edition := by
  rw [← fullCheck_eq_none, attempt]
  cases hcheck : fullCheck (a.text text) edition with
  | none =>
    simp only [and_true]
    exact ⟨fun h => (Except.ok.inj h).symm, fun h => congrArg _ h.symm⟩
  | some problem =>
    constructor
    · intro h
      cases h
    · rintro ⟨_, h⟩
      cases h

theorem attempt_eq_error {text : List Char} {edition : Edition} {a : Attempt}
    {p : SyntaxProblem} :
    attempt text edition a = .error p ↔
      ∃ cause offset, fullCheck (a.text text) edition = some (cause, offset) ∧
        p = ⟨cause, offset.bind (locate (a.text text) · a), edition, a⟩ := by
  rw [attempt]
  cases hcheck : fullCheck (a.text text) edition with
  | none => simp
  | some problem =>
    obtain ⟨cause, offset⟩ := problem
    simp only [Except.error.injEq, Option.some.injEq, Prod.mk.injEq]
    constructor
    · intro h
      exact ⟨cause, offset, ⟨rfl, rfl⟩, h.symm⟩
    · rintro ⟨_, _, ⟨rfl, rfl⟩, rfl⟩
      rfl

theorem attempt_of_error {text : List Char} {edition : Edition} {a : Attempt}
    {p : SyntaxProblem} (h : attempt text edition a = .error p) : p.attempt = a := by
  obtain ⟨_, _, _, rfl⟩ := attempt_eq_error.1 h
  rfl

theorem acceptBare_eq_ok {text : List Char} {edition : Edition} {r : Accepted} :
    acceptBare text edition = .ok r ↔ r = ⟨edition, false⟩ ∧ Passes text edition :=
  attempt_eq_ok

theorem acceptBare_of_not_passes {text : List Char} {edition : Edition}
    (h : ¬ Passes text edition) :
    ∃ p, acceptBare text edition = .error p := by
  cases hbare : acceptBare text edition with
  | ok r => exact absurd (acceptBare_eq_ok.1 hbare).2 h
  | error p => exact ⟨p, rfl⟩

theorem acceptWrapped_eq_ok {text : List Char} {edition : Edition} {r : Accepted} :
    acceptWrapped text edition = .ok r ↔ r = ⟨edition, true⟩ ∧ Passes (wrap text) edition :=
  attempt_eq_ok

/-- The wrapper is tried only for a text that does not pass as it stands. -/
theorem accept_eq_ok {text : List Char} {edition : Edition} {r : Accepted} :
    accept text edition = .ok r ↔
      r = ⟨edition, false⟩ ∧ Passes text edition ∨
        ¬ Passes text edition ∧ hasReturnLine text = true ∧
          r = ⟨edition, true⟩ ∧ Passes (wrap text) edition := by
  rw [accept]
  cases hbare : acceptBare text edition with
  | ok r' =>
    obtain ⟨rfl, hpasses⟩ := acceptBare_eq_ok.1 hbare
    simp only [hpasses, and_true, not_true_eq_false, false_and, or_false]
    exact ⟨fun h => (Except.ok.inj h).symm, fun h => congrArg _ h.symm⟩
  | error p =>
    have hfails : ¬ Passes text edition := fun h => by
      rw [acceptBare_eq_ok.2 ⟨rfl, h⟩] at hbare
      cases hbare
    simp only [hfails, and_false, not_false_eq_true, true_and, false_or]
    split
    · next hline => simp only [hline, true_and, acceptWrapped_eq_ok]
    · next hline => simp [hline]

theorem exists_attempt_of_accept {text : List Char} {edition : Edition} {p : SyntaxProblem}
    (h : accept text edition = .error p) : ∃ a, attempt text edition a = .error p := by
  rw [accept] at h
  split at h
  · cases h
  · next q hbare =>
    split at h
    · exact ⟨.wrapped, h⟩
    · cases h
      exact ⟨.bare, hbare⟩

def Accepted.full (r : Accepted) (text : List Char) : List Char :=
  if r.wrapped then wrap text else text

theorem passes_of_accept {text : List Char} {edition : Edition} {r : Accepted}
    (h : accept text edition = .ok r) : Passes (r.full text) edition := by
  rcases accept_eq_ok.1 h with ⟨rfl, hpasses⟩ | ⟨_, _, rfl, hpasses⟩ <;> exact hpasses

theorem isValid_ofAttempt {a : Except SyntaxProblem Accepted} :
    (Verdict.ofAttempt a).isValid = true ↔ ∃ r, a = .ok r := by
  cases a <;> simp [Verdict.ofAttempt, Verdict.isValid]

theorem ofAttempt_eq_valid {a : Except SyntaxProblem Accepted} {r : Accepted} :
    Verdict.ofAttempt a = .valid r ↔ a = .ok r := by
  cases a <;> simp [Verdict.ofAttempt]

theorem ofAttempt_eq_syntaxInvalid {a : Except SyntaxProblem Accepted} {p : SyntaxProblem} :
    Verdict.ofAttempt a = .syntaxInvalid p ↔ a = .error p := by
  cases a <;> simp [Verdict.ofAttempt]

theorem ofAttempt_ne_structuralInvalid (a : Except SyntaxProblem Accepted) (p : EntryProblem) :
    Verdict.ofAttempt a ≠ .structuralInvalid p := by
  cases a <;> simp [Verdict.ofAttempt]

theorem judge_ne_unreadable (header : Header) (text : List Char) (message : String) :
    judge header text ≠ .unreadable message := by
  have hattempt : ∀ a, Verdict.ofAttempt a ≠ .unreadable message := by
    intro a
    cases a <;> simp [Verdict.ofAttempt]
  rw [judge]
  split
  · split
    · nofun
    · exact hattempt _
  · exact hattempt _

theorem isValid_judge {header : Header} {text : List Char} :
    (judge header text).isValid = true ↔
      if header.category.singleEntryPoint then
        (scanEntryPoints text).count = 1 ∧ Passes (wrap text) header.edition
      else ∃ r, accept text header.edition = .ok r := by
  rw [judge]
  split
  · cases henforce : (scanEntryPoints text).enforce with
    | error p =>
      have hcount : (scanEntryPoints text).count ≠ 1 := fun h => by
        obtain ⟨r, hr⟩ := EntryScan.enforce_isOk_iff.2 h
        rw [hr] at henforce
        cases henforce
      simp [Verdict.isValid, hcount]
    | ok r =>
      have hcount := EntryScan.enforce_isOk_iff.1 ⟨r, henforce⟩
      simp only [isValid_ofAttempt, acceptWrapped_eq_ok, hcount, true_and]
      exact ⟨fun ⟨_, _, h⟩ => h, fun h => ⟨_, rfl, h⟩⟩
  · exact isValid_ofAttempt

end PluginAudit.Plugin
