import PluginAudit.Proofs.Reader.Guards

/-!
# What permission to return changes

`Reveals r D P` says of runs of `r` without the permission whose result has the property `D`: a run
with the permission notes the same faults and has the same result, and `P` holds. `P` is what `D`
says of the parts read before, so that along `bind` the whole speaks for its parts.
-/

namespace PluginAudit.Script

open ReadState

/-- The run with permission to return notes what the run without it does. -/
def NotesSame (r : Reader α) (s : ReadState) (a : α) (t : ReadState) : Prop :=
  ∃ new, t.faults = new ++ s.faults ∧
    ∀ fs, r (s.relaxed true fs) = .ok a (t.relaxed true (new ++ fs))

structure Reveals (r : Reader α) (D : α → Prop) (P : Prop) : Prop where
  passes : Passes true r
  same : ∀ {s t : ReadState} {a : α}, s.Tidy → s.context.allowReturn = false →
    r s = .ok a t → D a → P ∧ NotesSame r s a t

variable {α β σ : Type} {r : Reader α} {Q C : α → Prop} {D : β → Prop} {P : Prop}

theorem NotesSame.bind {f : α → Reader β} {s t u : ReadState} {a : α} {b : β}
    (hr : NotesSame r s a t) (hf : NotesSame (f a) t b u) : NotesSame (r >>= f) s b u := by
  obtain ⟨new, hnew, hsame⟩ := hr
  obtain ⟨new', hnew', hsame'⟩ := hf
  refine ⟨new' ++ new, ?_, fun fs => ?_⟩
  · rw [hnew', hnew, List.append_assoc]
  · have hrun : (r >>= f) (s.relaxed true fs) = EStateM.bind r f (s.relaxed true fs) := rfl
    rw [hrun, EStateM.bind, hsame, List.append_assoc]
    exact hsame' (new ++ fs)

/-- Readers that are not exposed note the same under both permissions. -/
theorem Reads.notesSame (h : Reads false r Q) {s t : ReadState} {a : α} (hs : s.Tidy)
    (hrun : r s = .ok a t) : NotesSame r s a t := by
  obtain ⟨new, hnew⟩ : ∃ new, t.faults = new ++ s.faults := by
    obtain ⟨_, _, _, new, hnew⟩ := h.of_run hs hrun
    exact ⟨new, hnew.symm⟩
  refine ⟨new, hnew, fun fs => ?_⟩
  obtain ⟨more, _, hleads, heq⟩ := h s hs true fs fun _ => rfl
  rw [hrun] at hleads heq
  obtain ⟨new', hnew', _, hsame⟩ := hleads.faults
  have hmore : more = new := by
    have ht : t.faults = new' ++ s.faults := hnew'
    rw [hsame nofun]
    exact List.append_cancel_right (ht.symm.trans hnew)
  rw [heq, hmore]
  rfl

namespace Reveals

theorem mono {C' : α → Prop} {P' : Prop} (h : Reveals r C P) (hC : ∀ a, C' a → C a)
    (hP : P → P') : Reveals r C' P' where
  passes := h.passes
  same := by
    intro s t a hs hallow hrun ha
    obtain ⟨hholds, hnotes⟩ := h.same hs hallow hrun (hC a ha)
    exact ⟨hP hholds, hnotes⟩

theorem ofReads (h : Reads false r Q) (hP : ∀ a, Q a → C a → P) : Reveals r C P where
  passes := h.cover.passes
  same hs _ hrun ha := ⟨hP _ (h.of_run hs hrun).1 ha, h.notesSame hs hrun⟩

theorem pure {a : α} (h : C a → P) : Reveals (Pure.pure a) C P :=
  ofReads (Q := fun a' => a' = a) (Reads.pure rfl) fun _ ha hC => h (ha ▸ hC)

/-- Nothing has to be said of readers that never give a result with the property. -/
theorem ofPasses (h : Reads true r Q) (hC : ∀ a, Q a → ¬ C a) : Reveals r C P where
  passes := h.passes
  same hs _ hrun ha := absurd ha (hC _ (h.of_run hs hrun).1)

theorem bind {f : α → Reader β} (hr : Reveals r C True)
    (hf : ∀ a, Reveals (f a) D (C a ∧ P)) : Reveals (r >>= f) D P where
  passes := hr.passes.bind fun a _ => (hf a).passes
  same := by
    intro s u b hs hallow hrun hb
    obtain ⟨a, t, hrt, hfu⟩ := bind_eq_ok hrun
    obtain ⟨_, ht, hallow', _⟩ := hr.passes.of_run hs hrt
    obtain ⟨⟨ha, hP⟩, hnotes⟩ := (hf a).same ht (hallow'.trans hallow) hfu hb
    exact ⟨hP, (hr.same hs hallow hrt ha).2.bind hnotes⟩

theorem ite {c : Prop} [Decidable c] {r₁ r₂ : Reader α} (h₁ : c → Reveals r₁ C P)
    (h₂ : ¬ c → Reveals r₂ C P) : Reveals (if c then r₁ else r₂) C P := by
  by_cases hc : c
  · rw [if_pos hc]
    exact h₁ hc
  · rw [if_neg hc]
    exact h₂ hc

/-- `I` is what the property of the result says of the loop's state. -/
theorem iterate {step : σ → Reader (σ ⊕ α)} {I : σ → Prop}
    (hstep : ∀ a, Reveals (step a) (Sum.elim I C) (I a)) (n : Nat) (a : σ) :
    Reveals (Reader.iterate step n a) C (I a) := by
  induction n generalizing a with
  | zero => exact ofPasses (Q := fun _ => False) (Reads.throw _) nofun
  | succ n ih =>
    refine ⟨?_, ?_⟩
    · refine (hstep a).passes.bind fun next _ => ?_
      cases next with
      | inl a' => exact (ih a').passes
      | inr b => exact Reads.pure trivial
    · intro s u b hs hallow hrun hb
      obtain ⟨next, t, hrt, hnext⟩ := bind_eq_ok hrun
      obtain ⟨_, ht, hallow', _⟩ := (hstep a).passes.of_run hs hrt
      cases next with
      | inl a' =>
        obtain ⟨ha', hnotes⟩ := (ih a').same ht (hallow'.trans hallow) hnext hb
        obtain ⟨ha, hnotes'⟩ := (hstep a).same hs hallow hrt ha'
        exact ⟨ha, hnotes'.bind hnotes⟩
      | inr b' =>
        cases hnext
        obtain ⟨ha, hnotes⟩ := (hstep a).same hs hallow hrt hb
        exact ⟨ha, hnotes.bind (Reads.notesSame (Q := fun _ => True) (Reads.pure trivial) ht rfl)⟩

theorem context {f : Context → Reader α} (hf : ∀ c b, f (c.permitting b) = f c)
    (h : ∀ c, Reveals (f c) C P) : Reveals (Reader.context >>= f) C P where
  passes := Reads.context hf fun c => (h c).passes
  same := by
    intro s t a hs hallow hrun ha
    obtain ⟨hP, new, hnew, hsame⟩ := (h s.context).same (s := s) hs hallow hrun ha
    refine ⟨hP, new, hnew, fun fs => ?_⟩
    rw [← hsame fs]
    exact congrFun (hf s.context true) _

end Reveals

namespace Reads

theorem reveals {f : α → Reader β} (hr : Reads false r Q) (hf : ∀ a, Q a → Reveals (f a) D P) :
    Reveals (r >>= f) D P where
  passes := hr.cover.bind fun a ha => (hf a ha).passes
  same := by
    intro s u b hs hallow hrun hb
    obtain ⟨a, t, hrt, hfu⟩ := bind_eq_ok hrun
    obtain ⟨ha, ht, hallow', _⟩ := hr.of_run hs hrt
    obtain ⟨hP, hnotes⟩ := (hf a ha).same ht (hallow'.trans hallow) hfu hb
    exact ⟨hP, (hr.notesSame hs hrt).bind hnotes⟩

end Reads

namespace Reveals

theorem loop {init : σ} {step : σ → Reader (σ ⊕ α)} (I : σ → Prop)
    (hstep : ∀ a, Reveals (step a) (Sum.elim I C) (I a)) :
    Reveals (Reader.loop init step) C (I init) :=
  Reads.limit.reveals fun n _ => iterate hstep n init

theorem never {f : α → Reader β} (hr : Reads true r fun _ => False) : Reveals (r >>= f) D P :=
  ofPasses (Q := fun _ => False) hr.never nofun

theorem node {k : Kind} {start : Nat} {ps : List Tree} {C : Tree → Prop}
    (h : ∀ stop, C (.node k start stop ps) → P) : Reveals (Reader.node k start ps) C P :=
  Reads.lastStop.reveals fun stop _ => pure (h stop)

end Reveals

end PluginAudit.Script
