import PluginAudit.Proofs.Reader.Steps

/-!
# What readers guard against

Where `return` is not permitted, some readers note a fault for each they come upon. `Guards r C`
says that `r` notes one or reads what has the property `C`. A run that notes nothing is made of
parts that note nothing, so properties of the parts come together along `bind`.
-/

namespace PluginAudit.Script

open ReadState

structure Guards (r : Reader α) (C : α → Prop) : Prop where
  passes : Passes true r
  clean : ∀ {s t : ReadState} {a : α}, s.Tidy → s.context.allowReturn = false →
    r s = .ok a t → t.faults = s.faults → C a

variable {α β σ : Type} {r : Reader α} {Q C : α → Prop} {D : β → Prop}

theorem Reads.of_run {x : Bool} (h : Reads x r Q) {s t : ReadState} {a : α} (hs : s.Tidy)
    (hrun : r s = .ok a t) :
    Q a ∧ t.Tidy ∧ t.context.allowReturn = s.context.allowReturn ∧ s.faults <:+ t.faults := by
  obtain ⟨more, hgives, hleads, _⟩ := h s hs true [] fun _ => rfl
  rw [hrun] at hgives hleads
  obtain ⟨new, hnew, _⟩ := hleads.faults
  exact ⟨hgives, hleads.tidy, hleads.allowReturn, new, hnew.symm⟩

theorem bind_eq_ok {f : α → Reader β} {s u : ReadState} {b : β} (h : (r >>= f) s = .ok b u) :
    ∃ a t, r s = .ok a t ∧ f a t = .ok b u := by
  have hrun : EStateM.bind r f s = .ok b u := h
  rw [EStateM.bind] at hrun
  cases hr : r s with
  | ok a t =>
    rw [hr] at hrun
    exact ⟨a, t, rfl, hrun⟩
  | error e t =>
    rw [hr] at hrun
    cases hrun

namespace Guards

theorem mono {C' : α → Prop} (h : Guards r C) (hC : ∀ a, C a → C' a) : Guards r C' where
  passes := h.passes
  clean hs hallow hrun hquiet := hC _ (h.clean hs hallow hrun hquiet)

theorem ofReads (h : Reads true r Q) (hC : ∀ a, Q a → C a) : Guards r C where
  passes := h.passes
  clean hs _ hrun _ := hC _ (h.of_run hs hrun).1

theorem pure {a : α} (h : C a) : Guards (Pure.pure a) C :=
  ofReads (Q := fun a' => a' = a) (Reads.pure rfl) fun _ ha => ha ▸ h

/-- What is known of the first part is known of all runs or of those that note nothing. -/
theorem bindReads {f : α → Reader β} (hr : Reads true r Q) (hguards : Guards r C)
    (hf : ∀ a, Q a → Guards (f a) fun b => C a → D b) : Guards (r >>= f) D where
  passes := hr.bind fun a ha => (hf a ha).passes
  clean := by
    intro s u b hs hallow hrun hquiet
    obtain ⟨a, t, hrt, hfu⟩ := bind_eq_ok hrun
    obtain ⟨ha, ht, hallow', hst⟩ := hr.of_run hs hrt
    obtain ⟨_, _, _, htu⟩ := (hf a ha).passes.of_run ht hfu
    -- nothing is noted from first to last, so nothing in between
    have hts : t.faults <:+ s.faults := hquiet ▸ htu
    have hfirst : t.faults = s.faults := (hst.eq_of_length_le hts.length_le).symm
    have hclean : C a := hguards.clean hs hallow hrt hfirst
    exact (hf a ha).clean ht (hallow'.trans hallow) hfu (hquiet.trans hfirst.symm) hclean

theorem bind {f : α → Reader β} (hr : Guards r C)
    (hf : ∀ a, Guards (f a) fun b => C a → D b) : Guards (r >>= f) D :=
  bindReads hr.passes hr fun a _ => hf a

theorem ite {c : Prop} [Decidable c] {r₁ r₂ : Reader α} (h₁ : c → Guards r₁ C)
    (h₂ : ¬ c → Guards r₂ C) : Guards (if c then r₁ else r₂) C := by
  by_cases hc : c
  · rw [if_pos hc]
    exact h₁ hc
  · rw [if_neg hc]
    exact h₂ hc

theorem iterate {step : σ → Reader (σ ⊕ α)} {P : σ → Prop}
    (hstep : ∀ a, Guards (step a) fun next => P a → Sum.elim P C next) (n : Nat) (a : σ) :
    Guards (Reader.iterate step n a) fun b => P a → C b := by
  induction n generalizing a with
  | zero => exact ofReads (Reads.throw _ : Reads true _ fun _ => False) fun _ h => h.elim
  | succ n ih =>
    apply (hstep a).bind
    intro next
    cases next with
    | inl a' => exact (ih a').mono fun b hb hnext ha => hb (hnext ha)
    | inr b => exact pure fun hnext ha => hnext ha

end Guards

namespace Reads

theorem guards {f : α → Reader β} (hr : Reads true r Q) (hf : ∀ a, Q a → Guards (f a) D) :
    Guards (r >>= f) D :=
  Guards.bindReads hr (.ofReads (C := fun _ => True) hr fun _ _ => trivial) fun a ha =>
    (hf a ha).mono fun _ hb _ => hb

end Reads

namespace Guards

theorem loop {init : σ} {step : σ → Reader (σ ⊕ α)} (P : σ → Prop) (hinit : P init)
    (hstep : ∀ a, Guards (step a) fun next => P a → Sum.elim P C next) :
    Guards (Reader.loop init step) C :=
  Reads.limit.guards fun n _ => (iterate hstep n init).mono fun _ hb => hb hinit

theorem never {f : α → Reader β} (hr : Reads true r fun _ => False) : Guards (r >>= f) D :=
  hr.guards fun _ h => h.elim

theorem context {f : Context → Reader α} (hf : ∀ c b, f (c.permitting b) = f c)
    (h : ∀ c, Guards (f c) C) : Guards (Reader.context >>= f) C where
  passes := Reads.context hf fun c => (h c).passes
  clean {s} _ _ hs hallow hrun hquiet := (h s.context).clean hs hallow hrun hquiet

theorem node {k : Kind} {start : Nat} {ps : List Tree} {C : Tree → Prop}
    (h : ∀ stop, C (.node k start stop ps)) : Guards (Reader.node k start ps) C :=
  Reads.lastStop.guards fun stop _ => pure (h stop)

/-- Nothing gets past the one fault that the permission is about. -/
theorem complains {f : Fault} {offset : Nat} {k : Unit → Reader α} (hk : Passes true (k ())) :
    Guards (do
      let c ← Reader.context
      if !c.allowReturn then
        let u ← Reader.complain f offset
        k u
      else k ()) C where
  passes := Reads.complainUnlessPermitted hk
  clean := by
    intro s t a hs hallow hrun hquiet
    rw [Reads.complainUnlessPermitted_run, hallow] at hrun
    obtain ⟨_, _, _, hsuffix⟩ :=
      hk.of_run (s := { s with faults := ⟨f, offset⟩ :: s.faults }) hs hrun
    have hlength := hsuffix.length_le
    rw [hquiet, List.length_cons] at hlength
    omega

end Guards

end PluginAudit.Script
