import PluginAudit.Proofs.Tree.Content
import PluginAudit.Script.Reader

/-!
# What readers read

`Reads exposed r Q` is what each rule of the grammar is proved to satisfy. All that `r` reads has
the property `Q`, and permitting `return` changes nothing but the faults noted on the way: the run
that permits it notes no others. A reader is `exposed` if the permission counts where it begins.
Inside functions all runs have the same permission, so nothing exposed is left of them.
-/

namespace PluginAudit.Script

open PluginAudit.Script.Tree (AllAre)

def Context.permitting (c : Context) (allowReturn : Bool) : Context :=
  { c with allowReturn }

theorem Context.permitting_self (c : Context) : c.permitting c.allowReturn = c := rfl

/-- A change that does not look at the permission keeps it. -/
theorem Context.allowReturn_of_blind {change : Context → Context}
    (hblind : ∀ c b, change (c.permitting b) = (change c).permitting b) (c : Context) :
    (change c).allowReturn = c.allowReturn := by
  have h := hblind c c.allowReturn
  rw [permitting_self] at h
  exact (congrArg Context.allowReturn h).trans rfl

namespace ReadState

def Tidy (s : ReadState) : Prop :=
  AllAre s.decorators Kind.isDecorator

/-- The same place in the text, with another permission and other faults before it. -/
def relaxed (s : ReadState) (allowReturn : Bool) (faults : List FaultAt) : ReadState :=
  { s with context := s.context.permitting allowReturn, faults }

theorem relaxed_of_blind {change : Context → Context}
    (hblind : ∀ c b, change (c.permitting b) = (change c).permitting b) (s : ReadState) (b : Bool)
    (fs : List FaultAt) :
    { s.relaxed b fs with context := change (s.relaxed b fs).context } =
      relaxed { s with context := change s.context } b fs := by
  rw [relaxed, relaxed, hblind]

/-- Whether runs from `s` and from a relaxed `s` have to note the same faults. -/
def Alike (exposed : Bool) (s : ReadState) (b : Bool) : Prop :=
  exposed = true → s.context.allowReturn = b

/-- Where a run from `s` may end; the run from the relaxed state notes `more`. -/
structure Leads (exposed : Bool) (s : ReadState) (b : Bool) (more : List FaultAt)
    (t : ReadState) : Prop where
  tidy : t.Tidy
  allowReturn : t.context.allowReturn = s.context.allowReturn
  faults : ∃ new, t.faults = new ++ s.faults ∧ more.Sublist new ∧ (s.Alike exposed b → more = new)

theorem Leads.refl {exposed b : Bool} {s t : ReadState} (htidy : t.Tidy)
    (hallow : t.context.allowReturn = s.context.allowReturn) (hfaults : t.faults = s.faults) :
    Leads exposed s b [] t :=
  ⟨htidy, hallow, [], hfaults, List.Sublist.refl _, fun _ => rfl⟩

theorem Leads.cover {exposed b : Bool} {s t : ReadState} {more : List FaultAt}
    (h : Leads false s b more t) : Leads exposed s b more t := by
  obtain ⟨new, hnew, hsub, hsame⟩ := h.faults
  exact ⟨h.tidy, h.allowReturn, new, hnew, hsub, fun _ => hsame nofun⟩

theorem Leads.trans {exposed b : Bool} {s t u : ReadState} {more more' : List FaultAt}
    (hst : Leads exposed s b more t) (htu : Leads exposed t b more' u) :
    Leads exposed s b (more' ++ more) u := by
  obtain ⟨new, hnew, hsub, heq⟩ := hst.faults
  obtain ⟨new', hnew', hsub', heq'⟩ := htu.faults
  refine ⟨htu.tidy, htu.allowReturn.trans hst.allowReturn, new' ++ new, ?_, ?_, ?_⟩
  · rw [hnew', hnew, List.append_assoc]
  · exact hsub'.append hsub
  · intro h
    have h' : t.Alike exposed b := fun he => hst.allowReturn.trans (h he)
    rw [heq h, heq' h']

end ReadState

open ReadState

/-! ## Ends of runs -/

abbrev Ending (α : Type) := EStateM.Result Stop ReadState α

namespace Ending

def state : Ending α → ReadState
  | .ok _ s => s
  | .error _ s => s

def mapState (f : ReadState → ReadState) : Ending α → Ending α
  | .ok a s => .ok a (f s)
  | .error e s => .error e (f s)

def Gives (Q : α → Prop) : Ending α → Prop
  | .ok a _ => Q a
  | .error _ _ => True

end Ending

def Reads (exposed : Bool) (r : Reader α) (Q : α → Prop) : Prop :=
  ∀ s : ReadState, s.Tidy → ∀ b fs, (s.context.allowReturn = true → b = true) →
    ∃ more, Ending.Gives Q (r s) ∧ Leads exposed s b more (Ending.state (r s)) ∧
      r (s.relaxed b fs) = Ending.mapState (·.relaxed b (more ++ fs)) (r s)

namespace Reads

variable {α β σ : Type} {x : Bool} {r : Reader α} {Q : α → Prop} {R : β → Prop}

theorem mono {Q' : α → Prop} (h : Reads x r Q) (hQ : ∀ a, Q a → Q' a) : Reads x r Q' := by
  intro s hs b fs hb
  obtain ⟨more, hgives, hleads, heq⟩ := h s hs b fs hb
  refine ⟨more, ?_, hleads, heq⟩
  cases hr : r s with
  | ok a t =>
    rw [hr] at hgives
    exact hQ a hgives
  | error e t => trivial

theorem cover (h : Reads false r Q) : Reads x r Q := by
  intro s hs b fs hb
  obtain ⟨more, hgives, hleads, heq⟩ := h s hs b fs hb
  exact ⟨more, hgives, hleads.cover, heq⟩

/-- Readers that leave context, faults and decorators as they are, and do not look at the
first two. -/
theorem of_quiet (hgives : ∀ s, Ending.Gives Q (r s))
    (hcontext : ∀ s, (Ending.state (r s)).context = s.context)
    (hfaults : ∀ s, (Ending.state (r s)).faults = s.faults)
    (hdecorators : ∀ s, (Ending.state (r s)).decorators = s.decorators)
    (hblind : ∀ s b fs, r (s.relaxed b fs) = Ending.mapState (·.relaxed b fs) (r s)) :
    Reads x r Q := by
  intro s hs b fs _
  refine ⟨[], hgives s, Leads.refl ?_ ?_ (hfaults s), hblind s b fs⟩
  · rw [Tidy, hdecorators s]
    exact hs
  · rw [hcontext s]

theorem pure {a : α} (h : Q a) : Reads x (Pure.pure a) Q :=
  of_quiet (fun _ => h) (fun _ => rfl) (fun _ => rfl) (fun _ => rfl) (fun _ _ _ => rfl)

theorem throw (e : Stop) : Reads x (throw e) Q :=
  of_quiet (fun _ => trivial) (fun _ => rfl) (fun _ => rfl) (fun _ => rfl) (fun _ _ _ => rfl)

theorem bind {f : α → Reader β} (hr : Reads x r Q) (hf : ∀ a, Q a → Reads x (f a) R) :
    Reads x (r >>= f) R := by
  intro s hs b fs hb
  obtain ⟨more, hgives, hleads, heq⟩ := hr s hs b fs hb
  have hrun : ∀ u, (r >>= f) u = EStateM.bind r f u := fun _ => rfl
  rw [hrun, hrun, EStateM.bind, EStateM.bind, heq]
  cases hrs : r s with
  | error e t =>
    rw [hrs] at hleads
    exact ⟨more, trivial, hleads, rfl⟩
  | ok a t =>
    rw [hrs] at hgives hleads
    have hbt : t.context.allowReturn = true → b = true := fun h => hb (hleads.allowReturn ▸ h)
    obtain ⟨more', hgives', hleads', heq'⟩ := hf a hgives t hleads.tidy b (more ++ fs) hbt
    refine ⟨more' ++ more, hgives', hleads.trans hleads', ?_⟩
    rw [List.append_assoc]
    exact heq'

theorem seq {f : α → Reader β} (hr : Reads x r fun _ => True) (hf : ∀ a, Reads x (f a) R) :
    Reads x (r >>= f) R :=
  hr.bind fun a _ => hf a

theorem give {f : α → Reader β} {a : α} (h : Reads x (f a) R) :
    Reads x (Pure.pure a >>= f) R :=
  bind (Q := fun a' => a' = a) (pure rfl) fun _ ha => ha ▸ h

theorem never {f : α → Reader β} (hr : Reads x r fun _ => False) : Reads x (r >>= f) R :=
  hr.bind fun _ h => h.elim

theorem map {f : α → β} (hr : Reads x r Q) (hf : ∀ a, Q a → R (f a)) : Reads x (f <$> r) R :=
  hr.bind (f := fun a => Pure.pure (f a)) fun a ha => pure (hf a ha)

theorem ite {c : Prop} [Decidable c] {r₁ r₂ : Reader α} (h₁ : c → Reads x r₁ Q)
    (h₂ : ¬ c → Reads x r₂ Q) : Reads x (if c then r₁ else r₂) Q := by
  by_cases hc : c
  · rw [if_pos hc]
    exact h₁ hc
  · rw [if_neg hc]
    exact h₂ hc

/-! ## Contexts and attempts -/

theorem within {change : Context → Context} (h : Reads x r Q)
    (hblind : ∀ c b, change (c.permitting b) = (change c).permitting b) :
    Reads x (Reader.within change r) Q := by
  intro s hs b fs hb
  have hkeep : (change s.context).allowReturn = s.context.allowReturn :=
    Context.allowReturn_of_blind hblind s.context
  obtain ⟨more, hgives, hleads, heq⟩ :=
    h { s with context := change s.context } hs b fs (fun hc => hb (hkeep ▸ hc))
  have hsame : s.Alike x b → ReadState.Alike x { s with context := change s.context } b :=
    fun ha hx => hkeep.trans (ha hx)
  obtain ⟨new, hnew, hsub, heqs⟩ := hleads.faults
  refine ⟨more, ?_⟩
  rw [Reader.within, Reader.within, relaxed_of_blind hblind, heq]
  cases hr : r { s with context := change s.context } with
  | ok a t =>
    rw [hr] at hgives hleads hnew
    exact ⟨hgives, ⟨hleads.tidy, rfl, new, hnew, hsub, heqs ∘ hsame⟩, rfl⟩
  | error e t =>
    rw [hr] at hleads hnew
    exact ⟨trivial, ⟨hleads.tidy, rfl, new, hnew, hsub, heqs ∘ hsame⟩, rfl⟩

/-- Where the context itself says whether `return` may stand, nothing is exposed any more. -/
theorem within_fixed {change : Context → Context} (h : Reads true r Q)
    (hfixed : ∀ c b, change (c.permitting b) = change c) :
    Reads x (Reader.within change r) Q := by
  intro s hs b fs hb
  have hstart : { s.relaxed b fs with context := change (s.relaxed b fs).context } =
      ReadState.relaxed { s with context := change s.context }
        (change s.context).allowReturn fs := by
    rw [relaxed, relaxed, hfixed, Context.permitting_self]
  -- both runs are under the one permission of the new context, so they are alike
  obtain ⟨more, hgives, hleads, heq⟩ :=
    h { s with context := change s.context } hs (change s.context).allowReturn fs id
  obtain ⟨new, hnew, hsub, heqs⟩ := hleads.faults
  have hmore : more = new := heqs fun _ => rfl
  refine ⟨more, ?_⟩
  rw [Reader.within, Reader.within, hstart, heq]
  cases hr : r { s with context := change s.context } with
  | ok a t =>
    rw [hr] at hgives hleads hnew
    exact ⟨hgives, ⟨hleads.tidy, rfl, new, hnew, hsub, fun _ => hmore⟩, rfl⟩
  | error e t =>
    rw [hr] at hleads hnew
    exact ⟨trivial, ⟨hleads.tidy, rfl, new, hnew, hsub, fun _ => hmore⟩, rfl⟩

theorem withIn (h : Reads x r Q) : Reads x (Reader.withIn r) Q :=
  h.within fun _ _ => rfl

theorem attempt (h : Reads x r Q) : Reads x (Reader.attempt r) fun o => ∀ a ∈ o, Q a := by
  intro s hs b fs hb
  obtain ⟨more, hgives, hleads, heq⟩ := h s hs b fs hb
  rw [Reader.attempt, Reader.attempt, heq]
  cases hr : r s with
  | ok a t =>
    rw [hr] at hgives hleads
    refine ⟨more, ?_, hleads, rfl⟩
    rintro _ ⟨⟩
    exact hgives
  | error e t =>
    rw [hr] at hleads
    cases e with
    | exhausted => exact ⟨more, trivial, hleads, rfl⟩
    | fault f =>
      -- both runs go back and drop the faults they noted
      exact ⟨[], nofun, Leads.refl hleads.tidy rfl rfl, rfl⟩

theorem ahead (h : Reads x r Q) : Reads x (Reader.ahead r) Q := by
  intro s hs b fs hb
  obtain ⟨more, hgives, hleads, heq⟩ := h s hs b fs hb
  rw [Reader.ahead, Reader.ahead, heq]
  cases hr : r s with
  | ok a t =>
    rw [hr] at hgives hleads
    exact ⟨[], hgives, Leads.refl hleads.tidy rfl rfl, rfl⟩
  | error e t =>
    rw [hr] at hleads
    exact ⟨more, trivial, hleads, rfl⟩

/-! ## Loops -/

theorem iterate {step : σ → Reader (σ ⊕ α)} {P : σ → Prop}
    (hstep : ∀ a, P a → Reads x (step a) (Sum.elim P Q)) (n : Nat) {a : σ} (ha : P a) :
    Reads x (Reader.iterate step n a) Q := by
  induction n generalizing a with
  | zero => exact throw _
  | succ n ih =>
    apply (hstep a ha).bind
    intro next hnext
    cases next with
    | inl a => exact ih hnext
    | inr b => exact pure hnext

theorem limit : Reads x Reader.limit fun _ => True :=
  of_quiet (fun _ => trivial) (fun _ => rfl) (fun _ => rfl) (fun _ => rfl) (fun _ _ _ => rfl)

theorem loop {init : σ} {step : σ → Reader (σ ⊕ α)} (P : σ → Prop) (hinit : P init)
    (hstep : ∀ a, P a → Reads x (step a) (Sum.elim P Q)) :
    Reads x (Reader.loop init step) Q :=
  limit.bind fun n _ => iterate hstep n hinit

theorem again {P : σ → Prop} {a : σ} (h : P a) :
    Reads x (Pure.pure (.inl a)) (Sum.elim P Q) :=
  pure h

theorem done {P : σ → Prop} {a : α} (h : Q a) :
    Reads x (Pure.pure (.inr a)) (Sum.elim P Q) :=
  pure h

theorem mapM {f : β → Reader α} {bs : List β} (hf : ∀ b ∈ bs, Reads x (f b) Q) :
    Reads x (bs.mapM f) fun as => ∀ a ∈ as, Q a := by
  induction bs with
  | nil => exact pure nofun
  | cons b bs ih =>
    rw [List.mapM_cons]
    apply (hf b (List.mem_cons_self ..)).bind
    intro a ha
    refine (ih fun b' hb' => hf b' (List.mem_cons_of_mem _ hb')).bind fun as has => ?_
    exact pure (List.forall_mem_cons.2 ⟨ha, has⟩)

end Reads

end PluginAudit.Script
