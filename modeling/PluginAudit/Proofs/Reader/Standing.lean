import PluginAudit.Proofs.Lexer.Plain
import PluginAudit.Proofs.Reader.Runs

/-!
# Places in a text

Where a reader stands: at a plain token, with the rest of the text behind it and no fault found. A
reader that goes on from there without a fault stands before a later part of the text.
-/

namespace PluginAudit.Script

open ReadState

/-- The reader stands at a plain token of the kind `k`, with `rest` behind it, and no fault has
been found. -/
structure StandsAt (k : TokenKind) (rest : List Char) (s : ReadState) : Prop where
  token : IsPlain k s.token
  ahead : s.ahead = []
  scan : ∃ offset limit, rest.length < limit ∧ s.scan = ⟨rest, offset, [], none, limit⟩
  faults : s.faults = []
  loose : s.loose = []

/-- If the text begins with a plain token, the reader stands at it. -/
def StandsBefore (text : List Char) (s : ReadState) : Prop :=
  ∀ ⦃k rest⦄, Lexes text k rest → StandsAt k rest s ∧ text.length < s.scan.limit

variable {α β σ : Type} {k : TokenKind} {text text' rest : List Char} {s t : ReadState}
  {r : Reader α} {f : α → Reader β} {Q : α → Prop} {R : β → Prop}

namespace StandsAt

theorem is (h : StandsAt k rest s) (sign : String) : s.token.is sign = k.is sign := by
  rw [Token.is, h.token.kind]

theorem is_sign {sign : String} (h : StandsAt (.sign sign) rest s) : s.token.is sign = true :=
  (h.is sign).trans (beq_self_eq_true sign)

theorem limit_ne_zero (h : StandsAt k rest s) : s.scan.limit ≠ 0 := by
  obtain ⟨offset, limit, hlimit, hscan⟩ := h.scan
  rw [hscan]
  exact Nat.ne_zero_of_lt hlimit

theorem exists_limit (h : StandsAt k rest s) (hrest : rest ≠ []) :
    ∃ n, s.scan.limit = n + 2 := by
  obtain ⟨offset, limit, hlimit, hscan⟩ := h.scan
  have hlength := List.length_pos_iff.2 hrest
  refine ⟨limit - 2, ?_⟩
  rw [hscan]
  dsimp only
  omega

theorem comment_eq_none (h : StandsAt k rest s) : s.scan.comment = none := by
  obtain ⟨offset, limit, _, hscan⟩ := h.scan
  rw [hscan]

theorem context (h : StandsAt k rest s) (c : Context) :
    StandsAt k rest { s with context := c } :=
  ⟨h.token, h.ahead, h.scan, h.faults, h.loose⟩

theorem advance (h : StandsAt k rest s) : StandsBefore rest s.advance := by
  intro k' rest' hlexes
  obtain ⟨offset, limit, hlimit, hscan⟩ := h.scan
  obtain ⟨t, offset', ht, htoken⟩ := hlexes.token false offset limit hlimit
  have hlength : rest'.length < limit := Nat.lt_of_le_of_lt hlexes.length_le hlimit
  rw [advance_of_ahead_nil h.ahead, hscan, htoken]
  exact ⟨⟨ht, h.ahead, ⟨offset', limit, hlength, rfl⟩, h.faults, h.loose⟩, hlimit⟩

/-- An attempt that only moved on leaves nothing behind. -/
theorem rewind_eq {k' : TokenKind} {rest' : List Char} (h : StandsAt k rest s)
    (ht : StandsAt k' rest' t) (hdecorators : t.decorators = s.decorators)
    (hnotArrow : t.notArrow = s.notArrow) : t.rewind s = s := by
  obtain ⟨_, ⟨_, _, _, _, _⟩, _, _, _, _, _, _, _⟩ := s
  rw [ReadState.rewind, ht.comment_eq_none, hdecorators, hnotArrow, ht.loose, ← h.loose,
    ← h.ahead, ← h.comment_eq_none]

end StandsAt

theorem StandsBefore.context (h : StandsBefore text s) (c : Context) :
    StandsBefore text { s with context := c } :=
  fun _ _ hlexes => ⟨(h hlexes).1.context c, (h hlexes).2⟩

theorem standsBefore_ofText (c : Context) (text : List Char) :
    StandsBefore text (ReadState.ofText c text) := by
  intro k rest hlexes
  obtain ⟨t, offset, ht, htoken⟩ :=
    hlexes.token true 0 (text.length + 1) (Nat.lt_succ_self text.length)
  have hlength : rest.length < text.length + 1 := Nat.lt_succ_of_le hlexes.length_le
  rw [ReadState.ofText, Scan.ofText, htoken]
  exact ⟨⟨ht, rfl, ⟨offset, _, hlength, rfl⟩, rfl, rfl⟩, Nat.lt_succ_self text.length⟩

/-! ## Readers that go on -/

/-- The reader ends without a fault and with a result that `Q` holds of, before `text`. Whether
`return` is permitted has not changed. -/
def Gives (Q : α → Prop) (text : List Char) (r : Reader α) (s : ReadState) : Prop :=
  ∃ a t, r s = .ok a t ∧ Q a ∧ StandsBefore text t ∧
    t.context.allowReturn = s.context.allowReturn

/-- The reader goes on to `text`, whatever it gives. -/
abbrev GoesTo (text : List Char) (r : Reader α) (s : ReadState) : Prop :=
  Gives (fun _ => True) text r s

namespace Gives

theorem of_run {r' : Reader α} (heq : r s = r' s) (h : Gives Q text r' s) : Gives Q text r s := by
  rw [Gives, heq]
  exact h

theorem bind (h : Gives Q text r s)
    (hf : ∀ a t, Q a → StandsBefore text t → t.context.allowReturn = s.context.allowReturn →
      Gives R text' (f a) t) : Gives R text' (r >>= f) s := by
  obtain ⟨a, t, hr, ha, ht, hcontext⟩ := h
  obtain ⟨b, u, hb, hR, hu, hcontext'⟩ := hf a t ha ht hcontext
  refine ⟨b, u, ?_, hR, hu, hcontext'.trans hcontext⟩
  rw [bind_apply, hr]
  exact hb

theorem step {a : α} (h : r s = .ok a t) (hcontext : t.context.allowReturn = s.context.allowReturn)
    (hf : Gives R text (f a) t) : Gives R text (r >>= f) s := by
  obtain ⟨b, u, hb, hR, hu, hcontext'⟩ := hf
  refine ⟨b, u, ?_, hR, hu, hcontext'.trans hcontext⟩
  rw [bind_apply, h]
  exact hb

/-- A look that changes nothing. -/
theorem after {a : α} (h : r s = .ok a s) (hf : Gives R text (f a) s) :
    Gives R text (r >>= f) s :=
  step h rfl hf

theorem pure {a : α} (ha : Q a) (h : StandsBefore text s) :
    Gives Q text (Pure.pure a : Reader α) s :=
  ⟨a, s, rfl, ha, h, rfl⟩

theorem node {k : Kind} {start : Nat} {parts : List Tree} (h : StandsBefore text s) :
    GoesTo text (Reader.node k start parts) s :=
  ⟨_, s, node_run, trivial, h, rfl⟩

theorem within {change : Context → Context}
    (h : Gives Q text r { s with context := change s.context }) :
    Gives Q text (Reader.within change r) s := by
  obtain ⟨a, t, hr, ha, ht, _⟩ := h
  refine ⟨a, { t with context := s.context }, ?_, ha, ht.context s.context, rfl⟩
  rw [Reader.within, hr]

theorem advance (h : StandsAt k rest s) : GoesTo rest Reader.advance s :=
  ⟨(), s.advance, advance_run h.token.plain, trivial, h.advance, by rw [context_advance]⟩

theorem expect {sign : String} (h : StandsAt (.sign sign) rest s) :
    GoesTo rest (Reader.expect sign) s := by
  exact ⟨(), s.advance, expect_run h.is_sign h.token.plain, trivial, h.advance,
    by rw [context_advance]⟩

/-! ## Loops and lists -/

theorem again {n : Nat} {step : σ → Reader (σ ⊕ α)} {init : σ}
    (h : Gives (fun x => ∃ a, x = .inl a) text (step init) s)
    (hnext : ∀ a t, StandsBefore text t → t.context.allowReturn = s.context.allowReturn →
      Gives Q text' (Reader.iterate step n a) t) :
    Gives Q text' (Reader.iterate step (n + 1) init) s := by
  refine bind h fun x t hx ht hcontext => ?_
  obtain ⟨a, rfl⟩ := hx
  exact hnext a t ht hcontext

theorem list_none {close : String} {trailing : Bool} {element : Reader Tree}
    (h : StandsAt (.sign close) rest s) :
    Reader.list close trailing element s = .ok [] s := by
  obtain ⟨n, hn⟩ := Nat.exists_eq_succ_of_ne_zero h.limit_ne_zero
  simp [Reader.list, Reader.loop, bind_apply, limit_run, hn, Reader.iterate, at_run, atEnd_run,
    h.is_sign, pure_run]

/-- A list of one element, which the closing sign follows. -/
theorem list_one {close : String} {element : Reader Tree} (h : StandsAt k rest s)
    (hclose : k.is close = false) (hend : k ≠ .endOfText) (hrest : rest ≠ [])
    (hlexes : Lexes text (.sign close) text') (helement : GoesTo text element s) :
    Gives (fun es => ∃ e, es = [e]) text (Reader.list close false element) s := by
  obtain ⟨n, hn⟩ := h.exists_limit hrest
  obtain ⟨e, t, he, _, ht, hcontext⟩ := helement
  have hdone : t.token.is close = true := (ht hlexes).1.is_sign
  refine ⟨[e], t, ?_, ⟨e, rfl⟩, ht, hcontext⟩
  simp [-bind_pure_comp, Reader.list, Reader.loop, bind_apply, limit_run, hn, Reader.iterate,
    at_run, atEnd_run, h.is, hclose, h.token.kind, hend, he, hdone, pure_run]

end Gives

end PluginAudit.Script
