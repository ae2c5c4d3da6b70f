import PluginAudit.Proofs.Plugin.Acceptance
import PluginAudit.Proofs.Plugin.Returns

/-!
# Reading in the wrapper at once

A text with its one entry point outside functions never passes as it stands. To go straight to the
wrapper changes the outcome exactly if no line begins with `return (`.
-/

namespace PluginAudit.Plugin

open Script EntryPoint

variable {text : List Char} {edition : Edition}

theorem scanEntryPoints_of_read {tree : Tree} (hread : read true text = .ok tree) :
    scanEntryPoints text = ⟨EntryPoint.count tree, .syntaxTree⟩ := by
  rw [scanEntryPoints, hread]

theorem not_passes_of_enforce {scan : EntryScan}
    (henforce : (scanEntryPoints text).enforce = .ok scan)
    (hexports : ∀ tree, read true text = .ok tree → exportedReturns tree = 0) :
    ¬ Passes text edition := by
  rintro ⟨tree, hread, _⟩
  have hread' : read true text = .ok tree := read_true_of_read_false hread
  have hone : (scanEntryPoints text).count = 1 := EntryScan.enforce_isOk_iff.1 ⟨scan, henforce⟩
  have hcount : EntryPoint.count tree = 1 := by rwa [scanEntryPoints_of_read hread'] at hone
  have htop : topLevelReturns tree = 0 := topLevelReturns_of_read hread
  have hexported : exportedReturns tree = 0 := hexports tree hread'
  have hsum := count_eq_add (isProgram_of_read hread')
  omega

/-- A text that passes the check for entry points, none of them in an export, is refused as it
stands, and has the outcome of its wrapper exactly if one of its lines begins with `return (`. -/
theorem accept_eq_acceptWrapped_iff {scan : EntryScan}
    (henforce : (scanEntryPoints text).enforce = .ok scan)
    (hexports : ∀ tree, read true text = .ok tree → exportedReturns tree = 0)
    (edition : Edition) :
    (accept text edition = acceptWrapped text edition ↔ hasReturnLine text = true) ∧
    ∃ p, acceptBare text edition = .error p ∧
      (hasReturnLine text = false → accept text edition = .error p) := by
  obtain ⟨p, hbare⟩ := acceptBare_of_not_passes (not_passes_of_enforce henforce hexports)
  have haccept : accept text edition =
      if hasReturnLine text then acceptWrapped text edition else .error p := by
    rw [accept, hbare]
  refine ⟨?_, p, hbare, fun hline => by rw [haccept, hline]; rfl⟩
  constructor
  · intro h
    by_contra hline
    rw [haccept, if_neg hline] at h
    -- the two would be one error of both attempts
    have hwrapped : p.attempt = .wrapped := attempt_of_error h.symm
    rw [attempt_of_error hbare] at hwrapped
    cases hwrapped
  · intro hline
    rw [haccept, if_pos hline]

theorem accept_eq_acceptWrapped_of_call :
    (scanEntryPoints "return (function () \x7b\x7d)();".toList).enforce = .ok ⟨1, .syntaxTree⟩ ∧
      accept "return (function () \x7b\x7d)();".toList .es5 =
        acceptWrapped "return (function () \x7b\x7d)();".toList .es5 := by
  obtain ⟨tree, hread, hcheck⟩ := exists_read true "return (function () \x7b\x7d)();".toList
    (fun t => EntryPoint.count t = 1 ∧ exportedReturns t = 0) (by decide +kernel)
  obtain ⟨hcount, hexported⟩ := of_decide_eq_true hcheck
  have henforce : (scanEntryPoints "return (function () \x7b\x7d)();".toList).enforce =
      .ok ⟨1, .syntaxTree⟩ := by
    rw [scanEntryPoints_of_read hread, hcount]
    rfl
  have hexports : ∀ t, read true "return (function () \x7b\x7d)();".toList = .ok t →
      exportedReturns t = 0 := by
    intro t ht
    rw [hread] at ht
    obtain rfl : tree = t := Except.ok.inj ht
    exact hexported
  have hline : hasReturnLine "return (function () \x7b\x7d)();".toList = true := by decide +kernel
  exact ⟨henforce, (accept_eq_acceptWrapped_iff henforce hexports .es5).1.2 hline⟩

/-- An entry point after the condition of an `if` is counted and is at no line's beginning. -/
theorem accept_ne_acceptWrapped_of_branch :
    (scanEntryPoints "if (a) return (function () \x7b\x7d)();".toList).enforce =
        .ok ⟨1, .syntaxTree⟩ ∧
      accept "if (a) return (function () \x7b\x7d)();".toList .es5 ≠
        acceptWrapped "if (a) return (function () \x7b\x7d)();".toList .es5 := by
  obtain ⟨tree, hread, hcheck⟩ := exists_read true "if (a) return (function () \x7b\x7d)();".toList
    (fun t => EntryPoint.count t = 1) (by decide +kernel)
  obtain ⟨wrapped, hwrapped, hlevel⟩ := exists_read false
    (wrap "if (a) return (function () \x7b\x7d)();".toList)
    (fun t => Finding.firstAbove? .es5 t.findings = none) (by decide +kernel)
  have hbare : ∀ t, read false "if (a) return (function () \x7b\x7d)();".toList ≠ .ok t :=
    not_read (by decide +kernel)
  have hline : hasReturnLine "if (a) return (function () \x7b\x7d)();".toList = false := by
    decide +kernel
  constructor
  · rw [scanEntryPoints_of_read hread, of_decide_eq_true hcheck]
    rfl
  · rw [acceptWrapped_eq_ok.2 ⟨rfl, wrapped, hwrapped, of_decide_eq_true hlevel⟩]
    intro haccept
    rcases accept_eq_ok.1 haccept with ⟨_, t, ht, _⟩ | ⟨_, hline', _⟩
    · exact hbare t ht
    · rw [hline] at hline'
      cases hline'

end PluginAudit.Plugin
