import PluginAudit.Proofs.Plugin.Editions
import PluginAudit.Proofs.Plugin.Permission

/-!
# Faults of the grammar in texts without any

A text that is a script where `return` is permitted has no fault of its own. As it stands it is
refused for its grammar only if it returns outside functions.
-/

namespace PluginAudit.Plugin

open Script

variable {text full : List Char} {edition : Edition} {tree : Tree}

/-- An attempt is refused for the grammar of the text, whatever the edition. -/
def RefusedForGrammar (text : List Char) (a : Attempt) : Prop :=
  ∀ edition, ∃ p, attempt text edition a = .error p ∧ p.cause.isGrammar = true

theorem fullCheck_isGrammar_iff :
    (∃ cause offset, fullCheck full edition = some (cause, offset) ∧ cause.isGrammar = true) ↔
      ∀ tree, read false full ≠ .ok tree := by
  constructor
  · rintro ⟨cause, offset, hcheck, hgrammar⟩ tree hread
    rw [fullCheck, hread] at hcheck
    obtain ⟨f, _, hf⟩ := Option.map_eq_some_iff.1 hcheck
    obtain ⟨rfl, _⟩ := Prod.mk.inj hf
    cases hgrammar
  · intro hread
    rw [fullCheck]
    split
    · exact ⟨_, _, rfl, rfl⟩
    · exact ⟨_, _, rfl, rfl⟩
    · next tree h => exact absurd h (hread tree)

theorem refusedForGrammar_iff {a : Attempt} :
    RefusedForGrammar text a ↔ ∀ tree, read false (a.text text) ≠ .ok tree := by
  constructor
  · intro h
    obtain ⟨p, hp, hgrammar⟩ := h .es5
    obtain ⟨cause, offset, hcheck, rfl⟩ := attempt_eq_error.1 hp
    exact fullCheck_isGrammar_iff.1 ⟨cause, offset, hcheck, hgrammar⟩
  · intro h edition
    have hcause : ∃ cause offset, fullCheck (a.text text) edition = some (cause, offset) ∧
        cause.isGrammar = true := fullCheck_isGrammar_iff.2 h
    obtain ⟨cause, offset, hcheck, hgrammar⟩ := hcause
    exact ⟨_, attempt_eq_error.2 ⟨cause, offset, hcheck, rfl⟩, hgrammar⟩

theorem refusedForGrammar_bare_iff (h : read true text = .ok tree) :
    RefusedForGrammar text .bare ↔ tree.HoldsReturn := by
  rw [refusedForGrammar_iff]
  constructor
  · intro hread
    by_contra hreturns
    exact hread tree ((read_false_iff h).2 hreturns)
  · intro hreturns tree' hread
    have hsame : read true text = .ok tree' := read_true_of_read_false hread
    obtain rfl : tree = tree' := Except.ok.inj (h.symm.trans hsame)
    exact not_holdsReturn_of_read hread hreturns

end PluginAudit.Plugin
