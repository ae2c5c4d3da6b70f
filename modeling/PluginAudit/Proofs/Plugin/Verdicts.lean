import PluginAudit.Proofs.Plugin.Acceptance
import PluginAudit.Proofs.Plugin.ReturnLines

/-!
# Which verdict a plugin gets

A verdict goes by the category of the plugin, the number of its entry points and what its text does
as it stands and in the wrapper. One attempt at most decides, and each kind of verdict has its
conditions.
-/

namespace PluginAudit.Plugin

open Script

variable {h : Header} {text : List Char} {p : SyntaxProblem} {r : Accepted}

/-- A plugin for pages that has not its one entry point. -/
def LacksEntry (h : Header) (text : List Char) : Prop :=
  h.category = .domExecuting ∧ (scanEntryPoints text).count ≠ 1

/-- The wrapper is where a plugin for pages is read, and is tried for others that are refused as
they stand and have a line for it. -/
def TriesWrapper (h : Header) (text : List Char) : Prop :=
  h.category = .domExecuting ∧ (scanEntryPoints text).count = 1 ∨
    h.category ≠ .domExecuting ∧ ¬ Passes text h.edition ∧ HasReturnLine text

def entryProblem (count : Nat) : EntryProblem :=
  if count = 0 then .missing else .several count

theorem singleEntryPoint_iff {c : Category} : c.singleEntryPoint = true ↔ c = .domExecuting := by
  rw [Category.singleEntryPoint, beq_iff_eq]

theorem enforce_of_count {s : EntryScan} (hcount : s.count ≠ 1) :
    s.enforce = .error (entryProblem s.count) := by
  rw [EntryScan.enforce, entryProblem]
  split
  · next hzero => rw [hzero]; rfl
  · next hone => exact absurd hone hcount
  · next hzero _ => rw [if_neg hzero]

/-! ## The attempt that decides -/

theorem judge_of_lacksEntry (hlacks : LacksEntry h text) :
    judge h text = .structuralInvalid (entryProblem (scanEntryPoints text).count) := by
  rw [judge, if_pos (singleEntryPoint_iff.2 hlacks.1), enforce_of_count hlacks.2]

theorem judge_of_not_single (hcategory : h.category ≠ .domExecuting) :
    judge h text = .ofAttempt (accept text h.edition) := by
  rw [judge, if_neg fun hsingle => hcategory (singleEntryPoint_iff.1 hsingle)]

theorem judge_of_triesWrapper (htries : TriesWrapper h text) :
    judge h text = .ofAttempt (attempt text h.edition .wrapped) := by
  rcases htries with ⟨hcategory, hcount⟩ | ⟨hcategory, hfails, hline⟩
  · obtain ⟨scan, hscan⟩ := EntryScan.enforce_isOk_iff.2 hcount
    rw [judge, if_pos (singleEntryPoint_iff.2 hcategory), hscan]
    rfl
  · obtain ⟨q, hbare⟩ := acceptBare_of_not_passes hfails
    rw [judge_of_not_single hcategory, accept, hbare]
    exact congrArg Verdict.ofAttempt (if_pos (hasReturnLine_iff.2 hline))

theorem judge_of_bare (hcategory : h.category ≠ .domExecuting) (htries : ¬ TriesWrapper h text) :
    judge h text = .ofAttempt (attempt text h.edition .bare) := by
  have hbare : accept text h.edition = acceptBare text h.edition := by
    rw [accept]
    cases hattempt : acceptBare text h.edition with
    | ok r => rfl
    | error q =>
      have hfails : ¬ Passes text h.edition := fun hpasses => by
        rw [acceptBare_eq_ok.2 ⟨rfl, hpasses⟩] at hattempt
        cases hattempt
      refine if_neg fun hline => htries (.inr ⟨hcategory, hfails, hasReturnLine_iff.1 hline⟩)
  rw [judge_of_not_single hcategory, hbare]
  rfl

theorem judge_cases (h : Header) (text : List Char) :
    LacksEntry h text ∨ TriesWrapper h text ∨
      h.category ≠ .domExecuting ∧ ¬ TriesWrapper h text := by
  by_cases htries : TriesWrapper h text
  · exact .inr (.inl htries)
  · by_cases hcategory : h.category = .domExecuting
    · exact .inl ⟨hcategory, fun hcount => htries (.inl ⟨hcategory, hcount⟩)⟩
    · exact .inr (.inr ⟨hcategory, htries⟩)

theorem not_triesWrapper_of_lacksEntry (hlacks : LacksEntry h text) : ¬ TriesWrapper h text := by
  rintro (⟨_, hcount⟩ | ⟨hcategory, _⟩)
  · exact hlacks.2 hcount
  · exact hcategory hlacks.1

/-! ## Kinds of verdicts -/

theorem judge_eq_structuralInvalid {q : EntryProblem} :
    judge h text = .structuralInvalid q ↔
      LacksEntry h text ∧ q = entryProblem (scanEntryPoints text).count := by
  rcases judge_cases h text with hlacks | htries | ⟨hcategory, htries⟩
  · rw [judge_of_lacksEntry hlacks, Verdict.structuralInvalid.injEq]
    simp only [hlacks, true_and, eq_comm]
  · rw [judge_of_triesWrapper htries]
    exact iff_of_false (ofAttempt_ne_structuralInvalid _ q) fun hlacks =>
      not_triesWrapper_of_lacksEntry hlacks.1 htries
  · rw [judge_of_bare hcategory htries]
    exact iff_of_false (ofAttempt_ne_structuralInvalid _ q) fun hlacks => hcategory hlacks.1.1

theorem judge_eq_valid :
    judge h text = .valid r ↔
      TriesWrapper h text ∧ r = ⟨h.edition, true⟩ ∧ Passes (wrap text) h.edition ∨
        h.category ≠ .domExecuting ∧ r = ⟨h.edition, false⟩ ∧ Passes text h.edition := by
  rcases judge_cases h text with hlacks | htries | ⟨hcategory, htries⟩
  · rw [judge_of_lacksEntry hlacks]
    refine iff_of_false nofun ?_
    rintro (⟨htries, _⟩ | ⟨hcategory, _⟩)
    · exact not_triesWrapper_of_lacksEntry hlacks htries
    · exact hcategory hlacks.1
  · have hnot : ¬ (h.category ≠ .domExecuting ∧ r = ⟨h.edition, false⟩ ∧
        Passes text h.edition) := by
      rintro ⟨hcategory, _, hpasses⟩
      rcases htries with ⟨hdom, _⟩ | ⟨_, hfails, _⟩
      · exact hcategory hdom
      · exact hfails hpasses
    rw [judge_of_triesWrapper htries, ofAttempt_eq_valid, attempt_eq_ok]
    simp only [htries, true_and, hnot, or_false]
    rfl
  · rw [judge_of_bare hcategory htries, ofAttempt_eq_valid, attempt_eq_ok]
    simp only [htries, false_and, hcategory, ne_eq, not_false_eq_true, true_and, false_or]
    rfl

theorem judge_eq_syntaxInvalid :
    judge h text = .syntaxInvalid p ↔
      TriesWrapper h text ∧ attempt text h.edition .wrapped = .error p ∨
        h.category ≠ .domExecuting ∧ ¬ TriesWrapper h text ∧
          attempt text h.edition .bare = .error p := by
  rcases judge_cases h text with hlacks | htries | ⟨hcategory, htries⟩
  · rw [judge_of_lacksEntry hlacks]
    simp [not_triesWrapper_of_lacksEntry hlacks, hlacks.1]
  · rw [judge_of_triesWrapper htries, ofAttempt_eq_syntaxInvalid]
    simp [htries]
  · rw [judge_of_bare hcategory htries, ofAttempt_eq_syntaxInvalid]
    simp [htries, hcategory]

/-- The table of verdicts. -/
theorem verdict_iff (text : List Char) :
    let header := (validate text).header
    let verdict := (validate text).verdict
    let count := (scanEntryPoints text).count
    header = classify text ∧
    (∀ q, verdict = .structuralInvalid q ↔ header.category = .domExecuting ∧ count ≠ 1 ∧
      q = if count = 0 then .missing else .several count) ∧
    (∀ e, verdict = .valid ⟨e, false⟩ ↔
      e = header.edition ∧ header.category ≠ .domExecuting ∧ Passes text header.edition) ∧
    (∀ e, verdict = .valid ⟨e, true⟩ ↔ e = header.edition ∧
      (header.category = .domExecuting ∧ count = 1 ∧ Passes (wrap text) header.edition ∨
        header.category ≠ .domExecuting ∧ ¬ Passes text header.edition ∧ HasReturnLine text ∧
          Passes (wrap text) header.edition)) ∧
    (∀ p, verdict = .syntaxInvalid p ↔
      TriesWrapper header text ∧ attempt text header.edition .wrapped = .error p ∨
        header.category ≠ .domExecuting ∧ ¬ TriesWrapper header text ∧
          attempt text header.edition .bare = .error p) ∧
    ((∃ p, verdict = .syntaxInvalid p) ↔
      (∀ q, verdict ≠ .structuralInvalid q) ∧ ∀ r, verdict ≠ .valid r) ∧
    ∀ m, verdict ≠ .unreadable m := by
  intro header verdict count
  have hverdict : verdict = judge header text := rfl
  refine ⟨rfl, fun q => ?_, fun e => ?_, fun e => ?_, fun p => judge_eq_syntaxInvalid, ?_,
    judge_ne_unreadable header text⟩
  · rw [hverdict, judge_eq_structuralInvalid, LacksEntry, and_assoc]
    rfl
  · rw [hverdict, judge_eq_valid]
    simp only [Accepted.mk.injEq, Bool.false_eq_true, and_false, false_and, false_or, and_true]
    exact and_left_comm
  · rw [hverdict, judge_eq_valid, TriesWrapper]
    simp only [Accepted.mk.injEq, Bool.true_eq_false, and_false, false_and, or_false, and_true]
    rw [and_left_comm, or_and_right]
    simp only [and_assoc]
    rfl
  · constructor
    · rintro ⟨p, hp⟩
      rw [hp]
      exact ⟨nofun, nofun⟩
    · rintro ⟨hstructural, hvalid⟩
      cases hcase : verdict with
      | valid r => exact absurd hcase (hvalid r)
      | syntaxInvalid p => exact ⟨p, rfl⟩
      | structuralInvalid q => exact absurd hcase (hstructural q)
      | unreadable m => exact absurd hcase (judge_ne_unreadable header text m)

end PluginAudit.Plugin
