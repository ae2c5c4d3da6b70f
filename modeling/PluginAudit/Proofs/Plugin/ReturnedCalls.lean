import PluginAudit.Proofs.Plugin.EntryPoints

/-!
# Returned calls

A return statement is an entry point if it returns the call of a function expression that stands in
parentheses. How many pairs there are, around the function and around the call, makes no difference.
A call by `?.` is part of a chain, and a chain is no call.
-/

namespace PluginAudit.Plugin

open Script

namespace EntryPoint

/-- `t` is `inner` in `n` pairs of parentheses. -/
inductive InParens (inner : Tree) : Nat → Tree → Prop
  | bare : InParens inner 0 inner
  | pair {n start stop : Nat} {t : Tree} (h : InParens inner n t) :
      InParens inner (n + 1) (.node .parenthesized start stop [t])

/-- A call of a function expression in at least one pair of parentheses. -/
def IsCalledFunction (call : Tree) : Prop :=
  ∃ callee arguments f n async generator, call.kind = .call false ∧
    call.parts = callee :: arguments ∧ 1 ≤ n ∧ InParens f n callee ∧
    f.kind = .function .expression async generator

/-- Two operands that are the same but for pairs of parentheses: around the whole, or around a
callee that has some. -/
inductive SameButParens : Tree → Tree → Prop
  | around {operand t u : Tree} {m n : Nat} (ht : InParens operand m t)
      (hu : InParens operand n u) : SameButParens t u
  | callee {f c d call call' : Tree} {arguments : List Tree} {optional : Bool} {m n : Nat}
      (hc : InParens f (m + 1) c) (hd : InParens f (n + 1) d) (hcall : call.kind = .call optional)
      (hparts : call.parts = c :: arguments) (hcall' : call'.kind = .call optional)
      (hparts' : call'.parts = d :: arguments) : SameButParens call call'
  | trans {t u v : Tree} (h : SameButParens t u) (h' : SameButParens u v) : SameButParens t v

variable {t u inner call callee value : Tree} {n : Nat}

theorem InParens.peels (h : InParens inner n t) : Peels t inner := by
  induction h with
  | bare => exact .refl inner
  | pair _ ih => exact .step ih

theorem exists_inParens (h : Peels t inner) : ∃ n, InParens inner n t := by
  induction h with
  | refl t => exact ⟨0, .bare⟩
  | step _ ih =>
    obtain ⟨n, hn⟩ := ih
    exact ⟨n + 1, .pair hn⟩

theorem InParens.unparenthesized_eq (h : InParens inner n t) :
    unparenthesized t = unparenthesized inner := by
  induction h with
  | bare => rfl
  | pair _ ih => rw [unparenthesized, ih]

theorem InParens.kind_eq (h : InParens inner (n + 1) t) : t.kind = .parenthesized := by
  cases h
  rfl

/-! ## In well-formed trees -/

/-- Within parentheses stands an expression, so no call by `?.`. -/
theorem Peels.isExpression (h : Peels t inner) (ht : t.IsA Kind.isExpression) :
    inner.IsA Kind.isExpression := by
  induction h with
  | refl t => exact ht
  | step _ ih =>
    obtain ⟨hinner, _⟩ := Content.Fits.of_cons ht.wellFormed.fits
    exact ih hinner

theorem operand_of_mem_parts (hwf : t.WellFormed) (hreturn : t.kind = .returnStatement)
    (hvalue : value ∈ t.parts) : t.parts = [value] ∧ value.IsA Kind.isExpression := by
  have hfits := hwf.fits
  rw [hreturn] at hfits
  rcases Content.Fits.eq_nil_or_optional hfits with hnone | ⟨p, qs, hparts, hp, hrest⟩
  · rw [hnone] at hvalue
    cases hvalue
  · obtain rfl : qs = [] := Content.Fits.eq_nil hrest
    rw [hparts, List.mem_singleton] at hvalue
    rw [hparts, hvalue]
    exact ⟨rfl, hp⟩

theorem isCalledFunction_iff (h : call.IsA Kind.isExpression) :
    IsCalledFunction call ↔ CallsInPlace call := by
  constructor
  · rintro ⟨callee, arguments, f, n, async, generator, hcall, hparts, hn, hparens, hf⟩
    obtain ⟨n, rfl⟩ : ∃ m, n = m + 1 := ⟨n - 1, by omega⟩
    refine ⟨false, callee, arguments, f, hcall, hparts, hparens.kind_eq, hparens.peels, ?_⟩
    rw [hf]
    rfl
  · rintro ⟨optional, callee, arguments, f, hcall, hparts, hcallee, hpeels, hf⟩
    have hexpression := h.kind
    rw [hcall] at hexpression
    obtain rfl : optional = false := by simpa [Kind.isExpression] using hexpression
    obtain ⟨n, hparens⟩ := exists_inParens hpeels
    -- without a pair the callee would be the function and a parenthesis
    have hpos : 1 ≤ n := by
      refine Nat.one_le_iff_ne_zero.2 fun hzero => ?_
      subst hzero
      cases hparens
      rw [hcallee] at hf
      cases hf
    cases hkind : f.kind with
    | function place async generator =>
      rw [hkind] at hf
      obtain rfl : place = .expression := eq_of_beq hf
      exact ⟨callee, arguments, f, n, async, generator, hcall, hparts, hpos, hparens, hkind⟩
    | _ =>
      rw [hkind] at hf
      cases hf

/-- Of a return statement with a value, what the value is within its parentheses decides. -/
theorem isEntryReturn_iff_operand (hwf : t.WellFormed) (hreturn : t.kind = .returnStatement)
    (hparts : t.parts = [value]) (hparens : InParens inner n value)
    (hinner : inner.kind ≠ .parenthesized) :
    isEntryReturn t = true ↔ IsCalledFunction inner := by
  have hmem : value ∈ t.parts := by rw [hparts]; exact List.mem_singleton_self value
  have hexpression := hparens.peels.isExpression (operand_of_mem_parts hwf hreturn hmem).2
  rw [isCalledFunction_iff hexpression, isEntryReturn_iff, ReturnsCallInPlace]
  constructor
  · rintro ⟨_, value', hvalue', call, hpeels, hcalls⟩
    obtain rfl := List.mem_singleton.1 (hparts ▸ hvalue')
    rw [hparens.peels.eq_unparenthesized hinner,
      ← hpeels.eq_unparenthesized hcalls.not_parenthesized]
    exact hcalls
  · exact fun hcalls => ⟨hreturn, value, hmem, inner, hparens.peels, hcalls⟩

/-! ## More or fewer parentheses -/

theorem isCallInPlace_of_callee {f c : Tree} {arguments : List Tree} {optional : Bool}
    (hc : InParens f (n + 1) c) (hcall : call.kind = .call optional)
    (hparts : call.parts = c :: arguments) :
    isCallInPlace call = isFunctionExpression (unparenthesized f) := by
  simp only [isCallInPlace, hcall, hparts, hc.kind_eq, hc.unparenthesized_eq, BEq.rfl,
    Bool.true_and]

theorem unparenthesized_of_ne (h : t.kind ≠ .parenthesized) : unparenthesized t = t :=
  ((Peels.refl t).eq_unparenthesized h).symm

theorem SameButParens.isCallInPlace_eq (h : SameButParens t u) :
    isCallInPlace (unparenthesized t) = isCallInPlace (unparenthesized u) := by
  induction h with
  | around ht hu => rw [ht.unparenthesized_eq, hu.unparenthesized_eq]
  | callee hc hd hcall hparts hcall' hparts' =>
    rw [unparenthesized_of_ne (by rw [hcall]; exact nofun),
      unparenthesized_of_ne (by rw [hcall']; exact nofun),
      isCallInPlace_of_callee hc hcall hparts, isCallInPlace_of_callee hd hcall' hparts']
  | trans _ _ ih ih' => rw [ih, ih']

end EntryPoint

open EntryPoint

/-- A return statement of a script is an entry point exactly if it returns, in any number of
parentheses, the call of a function expression that is in parentheses itself. So its operand within
all parentheses decides, and a pair more or less around the call or around the function in its
parentheses changes nothing. -/
theorem entry_return_iff {allowReturn : Bool} {text : List Char} {tree t : Tree}
    (hread : read allowReturn text = .ok tree) (ht : t ∈ tree.nodes)
    (hreturn : t.kind = .returnStatement) :
    (isEntryReturn t = true ↔
      ∃ value call m, t.parts = [value] ∧ InParens call m value ∧ IsCalledFunction call) ∧
    (∀ value operand m, t.parts = [value] → InParens operand m value →
      operand.kind ≠ .parenthesized → (isEntryReturn t = true ↔ IsCalledFunction operand)) ∧
    ∀ value t' value', t.parts = [value] → t'.kind = .returnStatement → t'.parts = [value'] →
      SameButParens value value' → isEntryReturn t' = isEntryReturn t := by
  have hwf : t.WellFormed := (isProgram_of_read hread).wellFormed.of_mem_nodes ht
  refine ⟨⟨fun hentry => ?_, ?_⟩, ?_, ?_⟩
  · obtain ⟨_, value, hvalue, call, hpeels, hcalls⟩ := isEntryReturn_iff.1 hentry
    obtain ⟨hparts, hexpression⟩ := operand_of_mem_parts hwf hreturn hvalue
    obtain ⟨m, hparens⟩ := exists_inParens hpeels
    exact ⟨value, call, m, hparts, hparens,
      (isCalledFunction_iff (hpeels.isExpression hexpression)).2 hcalls⟩
  · rintro ⟨value, call, m, hparts, hparens, hcalled⟩
    have hcall : call.kind ≠ .parenthesized := by
      obtain ⟨_, _, _, _, _, _, hk, _⟩ := hcalled
      rw [hk]
      exact nofun
    exact (isEntryReturn_iff_operand hwf hreturn hparts hparens hcall).2 hcalled
  · exact fun value operand m hparts hparens hoperand =>
      isEntryReturn_iff_operand hwf hreturn hparts hparens hoperand
  · intro value t' value' hparts hreturn' hparts' hsame
    simp only [isEntryReturn, hreturn, hreturn', hparts, hparts', List.any_cons, List.any_nil,
      hsame.isCallInPlace_eq]

/-- A named function with `async`, in two pairs of parentheses, and its call in one. -/
theorem entry_return_iff_async :
    ∃ tree t, read true "return (((async function f() \x7b\x7d))(1));".toList = .ok tree ∧
      t ∈ tree.nodes ∧ t.kind = .returnStatement ∧
      ∃ value call m, t.parts = [value] ∧ InParens call m value ∧ IsCalledFunction call := by
  obtain ⟨tree, hread, hcheck⟩ :=
    exists_read true "return (((async function f() \x7b\x7d))(1));".toList
      (·.nodes.any fun t => t.kind == .returnStatement && isEntryReturn t) (by decide +kernel)
  obtain ⟨t, ht, hentry⟩ := List.any_eq_true.1 hcheck
  obtain ⟨hkind, hentry⟩ := Bool.and_eq_true_iff.1 hentry
  have hreturn : t.kind = .returnStatement := eq_of_beq hkind
  exact ⟨tree, t, hread, ht, hreturn, (entry_return_iff hread ht hreturn).1.1 hentry⟩

/-- A call by `?.` is none. -/
example : scanEntryPoints "return (function () \x7b\x7d)?.();".toList = ⟨0, .syntaxTree⟩ := by
  decide +kernel

end PluginAudit.Plugin
