import PluginAudit.Proofs.Reader.Steps

/-!
# Runs at known tokens

What the readers that the grammar is made of do where the token is known, and how a fault ends all
readers around it.
-/

namespace PluginAudit.Script

open ReadState

/-! ## Steps -/

section

variable {α β : Type} {s : ReadState} {text : String}

theorem bind_apply {r : Reader α} {f : α → Reader β} :
    (r >>= f) s = match r s with
      | .ok a t => f a t
      | .error e t => .error e t := by
  change EStateM.bind r f s = _
  rw [EStateM.bind]
  cases r s <;> rfl

theorem pure_run {a : α} : (pure a : Reader α) s = .ok a s := rfl

theorem cur_run : Reader.cur s = .ok s.token s := rfl

theorem curKind_run : Reader.curKind s = .ok s.token.kind s := rfl

theorem start_run : Reader.start s = .ok s.token.start s := rfl

theorem at_run : Reader.at_ text s = .ok (s.token.is text) s := rfl

theorem atEnd_run : Reader.atEnd s = .ok (s.token.kind == .endOfText) s := rfl

theorem context_run : Reader.context s = .ok s.context s := rfl

theorem limit_run : Reader.limit s = .ok s.scan.limit s := rfl

theorem node_run {k : Kind} {start : Nat} {ps : List Tree} :
    Reader.node k start ps s = .ok (.node k start s.lastStop ps) s := rfl

theorem modify_run {f : ReadState → ReadState} : (modify f : Reader Unit) s = .ok () (f s) := rfl

theorem ite_run {c : Prop} [Decidable c] {r₁ r₂ : Reader α} :
    (if c then r₁ else r₂) s = if c then r₁ s else r₂ s := by
  split <;> rfl

theorem advanceName_run : Reader.advanceName s = .ok () s.advance := by
  rw [Reader.advanceName, modify_run]

theorem advance_run (h : s.token.escaped = false) : Reader.advance s = .ok () s.advance := by
  simp [Reader.advance, bind_apply, cur_run, h, modify_run]

theorem eat_run_none (h : s.token.is text = false) : Reader.eat text s = .ok false s := by
  simp [Reader.eat, bind_apply, at_run, h, pure_run]

theorem eat_run (h : s.token.is text = true) (hplain : s.token.escaped = false) :
    Reader.eat text s = .ok true s.advance := by
  rw [Reader.eat, bind_apply, at_run]
  simp only [h, if_true, bind_apply, advance_run hplain, pure_run]

theorem canEndStatement_run :
    Reader.canEndStatement s = .ok (s.token.is ";" || s.token.is "\x7d" ||
      s.token.kind == .endOfText || s.token.afterNewline) s := rfl

theorem expect_run (h : s.token.is text = true) (hplain : s.token.escaped = false) :
    Reader.expect text s = .ok () s.advance := by
  simp [Reader.expect, Reader.require, bind_apply, cur_run, h, pure_run, advance_run hplain]

/-- Where the kind of the token is known, a rule that asks for it can be run. -/
theorem eq_withKind {k : TokenKind} (h : s.token.kind = k) :
    s = { s with token := { s.token with kind := k } } := by
  subst h
  rfl

theorem advance_of_ahead_nil (h : s.ahead = []) :
    s.advance = { s with
      lastStop := s.token.stop
      token := (Lexer.token false s.scan).1
      scan := (Lexer.token false s.scan).2 } := by
  obtain ⟨_, _, _, _, _, _, _, _, _⟩ := s
  subst h
  rfl

theorem advance_context (c : Context) :
    ReadState.advance { s with context := c } = { s.advance with context := c } := by
  obtain ⟨_, _, _ | ⟨_, _⟩, _, _, _, _, _, _⟩ := s <;> rfl

theorem context_advance : s.advance.context = s.context := by
  obtain ⟨_, _, _ | ⟨_, _⟩, _, _, _, _, _, _⟩ := s <;> rfl

theorem decorators_advance : s.advance.decorators = s.decorators := by
  obtain ⟨_, _, _ | ⟨_, _⟩, _, _, _, _, _, _⟩ := s <;> rfl

theorem notArrow_advance : s.advance.notArrow = s.notArrow := by
  obtain ⟨_, _, _ | ⟨_, _⟩, _, _, _, _, _, _⟩ := s <;> rfl

end

/-! ## Faults -/

/-- The reader ends with a fault. -/
def Fails (r : Reader α) (s : ReadState) : Prop :=
  ∃ f t, r s = .error (.fault f) t

namespace Fails

variable {α β σ : Type} {r : Reader α} {f : α → Reader β} {s t : ReadState}

theorem bind (h : Fails r s) : Fails (r >>= f) s := by
  obtain ⟨e, t, h⟩ := h
  refine ⟨e, t, ?_⟩
  rw [bind_apply, h]

theorem after {a : α} (h : r s = .ok a t) (hf : Fails (f a) t) : Fails (r >>= f) s := by
  obtain ⟨e, u, hf⟩ := hf
  refine ⟨e, u, ?_⟩
  rw [bind_apply, h]
  exact hf

theorem within {change : Context → Context}
    (h : Fails r { s with context := change s.context }) : Fails (Reader.within change r) s := by
  obtain ⟨e, t, h⟩ := h
  refine ⟨e, { t with context := s.context }, ?_⟩
  rw [Reader.within, h]

theorem loop {init : σ} {step : σ → Reader (σ ⊕ α)} (hlimit : s.scan.limit ≠ 0)
    (h : Fails (step init) s) : Fails (Reader.loop init step) s := by
  obtain ⟨n, hn⟩ := Nat.exists_eq_succ_of_ne_zero hlimit
  apply after (a := n + 1) (t := s)
  · rw [limit_run, hn]
  · exact h.bind

theorem unexpected : Fails (Reader.unexpected : Reader α) s := by
  rw [Fails, Reads.unexpected_run]
  split
  · exact ⟨_, _, rfl⟩
  · exact ⟨_, _, rfl⟩

theorem list {close : String} {trailing : Bool} {element : Reader Tree}
    (hclose : s.token.is close = false) (hend : s.token.kind ≠ .endOfText)
    (hlimit : s.scan.limit ≠ 0) (h : Fails element s) :
    Fails (Reader.list close trailing element) s := by
  apply loop hlimit
  apply after at_run
  apply after atEnd_run
  have hgoesOn : (s.token.is close || s.token.kind == .endOfText) = false := by
    simp [hclose, hend]
  rw [hgoesOn]
  exact h.bind

end Fails

end PluginAudit.Script
