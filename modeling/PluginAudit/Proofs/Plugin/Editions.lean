import PluginAudit.Proofs.Plugin.Acceptance

/-!
# One text at several editions

A newer edition accepts what an older one does, and never needs the wrapper where the older did
without. Faults of the grammar are the same at all editions, and the newest one has no others.
-/

namespace PluginAudit.Plugin

open Script

variable {text full : List Char} {v w : Edition} {r : Accepted} {p : SyntaxProblem}

/-! ## Acceptance -/

theorem Passes.mono (hvw : v ≤ w) (h : Passes full v) : Passes full w := by
  obtain ⟨tree, hread, hlevel⟩ := h
  refine ⟨tree, hread, ?_⟩
  rw [Finding.firstAbove?_eq_none] at hlevel ⊢
  intro f hf hnewer
  have hold : ¬ v < f.feature.edition := hlevel f hf
  exact hold (Nat.lt_of_le_of_lt hvw hnewer)

theorem acceptWrapped_mono (hvw : v ≤ w) (h : acceptWrapped text v = .ok r) :
    acceptWrapped text w = .ok ⟨w, true⟩ := by
  have hpasses : Passes (wrap text) v := (acceptWrapped_eq_ok.1 h).2
  exact acceptWrapped_eq_ok.2 ⟨rfl, hpasses.mono hvw⟩

theorem accept_mono (hvw : v ≤ w) (h : accept text v = .ok r) :
    ∃ r', accept text w = .ok r' ∧ (r'.wrapped = true → r.wrapped = true) := by
  by_cases hbare : Passes text w
  · exact ⟨⟨w, false⟩, accept_eq_ok.2 (.inl ⟨rfl, hbare⟩), nofun⟩
  rcases accept_eq_ok.1 h with ⟨_, hpasses⟩ | ⟨_, hline, rfl, hpasses⟩
  · exact absurd (hpasses.mono hvw) hbare
  · have hwrapped : accept text w = .ok ⟨w, true⟩ :=
      accept_eq_ok.2 (.inr ⟨hbare, hline, rfl, hpasses.mono hvw⟩)
    exact ⟨⟨w, true⟩, hwrapped, fun _ => rfl⟩

/-! ## Problems -/

/-- The edition plays no part in a fault of the grammar. -/
theorem fullCheck_of_isGrammar {cause : SyntaxCause} {offset : Option Nat}
    (h : fullCheck full v = some (cause, offset)) (hgrammar : cause.isGrammar = true) :
    fullCheck full w = some (cause, offset) := by
  rw [fullCheck] at h ⊢
  split at h
  · exact h
  · exact h
  · obtain ⟨f, _, hf⟩ := Option.map_eq_some_iff.1 h
    obtain ⟨rfl, _⟩ := Prod.mk.inj hf
    cases hgrammar

theorem isGrammar_of_fullCheck {cause : SyntaxCause} {offset : Option Nat}
    (h : fullCheck full .es2024 = some (cause, offset)) : cause.isGrammar = true := by
  rw [fullCheck] at h
  split at h
  · cases h
    rfl
  · cases h
    rfl
  · next tree _ =>
    have hnone : Finding.firstAbove? .es2024 tree.findings = none :=
      Finding.firstAbove?_eq_none.2 fun f _ => edition_le_newest f.feature.edition
    rw [hnone] at h
    cases h

theorem attempt_of_isGrammar {a : Attempt} (h : attempt text v a = .error p)
    (hgrammar : p.cause.isGrammar = true) : attempt text w a = .error { p with edition := w } := by
  obtain ⟨cause, offset, hcheck, rfl⟩ := attempt_eq_error.1 h
  exact attempt_eq_error.2 ⟨cause, offset, fullCheck_of_isGrammar hcheck hgrammar, rfl⟩

theorem attempt_isGrammar {a : Attempt} (h : attempt text .es2024 a = .error p) :
    p.cause.isGrammar = true := by
  obtain ⟨cause, offset, hcheck, rfl⟩ := attempt_eq_error.1 h
  exact isGrammar_of_fullCheck hcheck

/-- From an edition to a newer one acceptance is kept, and with it that no wrapper is needed. In
the wrapper, faults of the grammar stay as they are at all editions; the newest has no others. -/
theorem accepted_at_newer_edition (hvw : v ≤ w) :
    (∀ r, acceptWrapped text v = .ok r → acceptWrapped text w = .ok ⟨w, true⟩) ∧
    (∀ r, accept text v = .ok r →
      ∃ r', accept text w = .ok r' ∧ (r'.wrapped = true → r.wrapped = true)) ∧
    (∀ e e' p, acceptWrapped text e = .error p → p.cause.isGrammar = true →
      acceptWrapped text e' = .error { p with edition := e' }) ∧
    (∀ p, acceptWrapped text .es2024 = .error p ∨ accept text .es2024 = .error p →
      p.cause.isGrammar = true) := by
  refine ⟨fun r => acceptWrapped_mono hvw, fun r => accept_mono hvw, ?_, ?_⟩
  · intro e e' p h hgrammar
    exact attempt_of_isGrammar h hgrammar
  · rintro p (h | h)
    · exact attempt_isGrammar h
    · obtain ⟨a, ha⟩ := exists_attempt_of_accept h
      exact attempt_isGrammar ha

theorem arrow_accepted_at_newer_edition :
    Edition.es2015 ≤ .es2020 ∧
      acceptWrapped "return (a => a);".toList .es2015 = .ok ⟨.es2015, true⟩ ∧
      acceptWrapped "return (a => a);".toList .es2020 = .ok ⟨.es2020, true⟩ := by
  have holder : Edition.es2015 ≤ .es2020 := by decide
  obtain ⟨tree, hread, hcheck⟩ := exists_read false (wrap "return (a => a);".toList)
    (fun t => Finding.firstAbove? .es2015 t.findings = none) (by decide +kernel)
  have haccept := acceptWrapped_eq_ok.2 ⟨rfl, tree, hread, of_decide_eq_true hcheck⟩
  exact ⟨holder, haccept, (accepted_at_newer_edition holder).1 _ haccept⟩

end PluginAudit.Plugin
