import PluginAudit.Proofs.Grammar.Basic
import PluginAudit.Script.Grammar.Patterns

/-!
# Reading patterns

Patterns that bind, and expressions read again as patterns that assign.
-/

namespace PluginAudit.Script

open Kind PluginAudit.Script.Tree

namespace Reads

variable {x : Bool} {rules : Rules}

/-! ## Binding -/

theorem listWithRest {close : String} {element rest : Reader Tree} {c d : KindClass}
    (helement : Reads x element (·.IsA c)) (hrest : Reads x rest (·.IsA d)) :
    Reads x (Grammar.listWithRest close element rest) fun p =>
      AllAre p.1 c ∧ AllAre p.2.toList d := by
  refine loop (fun p => AllAre p.2.1 c ∧ AllAre p.2.2.toList d) ⟨nofun, nofun⟩ fun p hp => ?_
  obtain ⟨first, items, collected⟩ := p
  obtain ⟨hitems, hcollected⟩ := hp
  dsimp -zeta only
  extract_lets finish more
  have hfinish : Reads x finish (Sum.elim (fun p => AllAre p.2.1 c ∧ AllAre p.2.2.toList d)
      fun p => AllAre p.1 c ∧ AllAre p.2.toList d) :=
    done ⟨fun t ht => hitems t (List.mem_reverse.1 ht), hcollected⟩
  have hmore : Reads x (more ()) (Sum.elim (fun p => AllAre p.2.1 c ∧ AllAre p.2.2.toList d)
      fun p => AllAre p.1 c ∧ AllAre p.2.toList d) := by
    refine (at_ _).seq fun dots => ite (fun _ => ?_) fun _ => ?_
    · exact hrest.bind fun r hr => again ⟨hitems, .singleton hr⟩
    · exact helement.bind fun e he => again ⟨hitems.cons he, hcollected⟩
  clear_value finish more
  refine (at_ _).seq fun _ => atEnd.seq fun _ => ite (fun _ => hfinish) fun _ => ?_
  refine ite (fun _ => (expect _).seq fun _ => (at_ _).seq fun _ => ?_) fun _ => hmore
  exact ite (fun _ => hfinish) fun _ => hmore

theorem withDefault (h : rules.Sound) {start : Nat} {p : Tree} (hp : p.IsA isPattern) :
    Reads x (Grammar.withDefault rules start p) (·.IsA isBindingElement) := by
  refine (eat "=").seq fun _ => ite (fun _ => ?_) fun _ => ?_
  · exact h.assignment.bind fun e he => node (.first hp (.first he .none)) rfl
  · exact pure (hp.weaken fun _ => isBindingElement_of_isPattern)

theorem patternWithDefault (h : rules.Sound) :
    Reads x (Grammar.patternWithDefault rules) (·.IsA isBindingElement) :=
  start.seq fun _ => h.pattern.bind fun _ hp => (withDefault h hp).withIn

theorem restElement (h : rules.Sound) (place : DotsPlace) :
    Reads x (Grammar.restElement rules place) (·.IsA (isRest place)) := by
  refine start.seq fun _ => (expect _).seq fun _ => (patternWithDefault h).bind fun p hp => ?_
  have hp' : p.IsA fun k => k.isBindingElement || k.isTarget :=
    hp.weaken fun k hk => by rw [hk, Bool.true_or]
  have hrest : (Kind.rest place).isRest place = true := beq_self_eq_true _
  refine (node (k := .rest place) (.first hp' .none) hrest).bind fun r hr => ?_
  apply (at_ _).seq
  intro comma
  extract_lets finish notLast
  have hfinish : Reads x (finish ()) (·.IsA (isRest place)) := pure hr
  have hnotLast : Reads x (notLast ()) (·.IsA (isRest place)) :=
    (complain _ _).seq fun _ => hfinish
  clear_value finish notLast
  refine ite (fun _ => peek.seq fun after => ?_) fun _ => hfinish
  refine ite (fun _ => start.seq fun _ => ?_) fun _ => hnotLast
  exact advance.seq fun _ => (complain _ _).seq fun _ => hnotLast

theorem patternProperty (h : rules.Sound) :
    Reads x (Grammar.patternProperty rules) (·.IsA isPatternProperty) := by
  refine start.seq fun _ => curKind.seq fun k => (key h).bind fun k hk => ?_
  refine (at_ _).seq fun colon => ite (fun _ => ?_) fun _ => ?_
  · extract_lets shorthand
    have hshorthand : k.tree.isName → Reads x (shorthand ()) (·.IsA isPatternProperty) := by
      intro hname
      have hk' : k.tree.IsA isPattern := hk.ofName hname isPattern_of_isPlainName
      exact (withDefault h hk').withIn.bind fun value hvalue =>
        node (.first hk (.first hvalue .none)) rfl
    clear_value shorthand
    refine ite (fun _ => unexpected.never) fun hname => ?_
    exact hshorthand (by simpa using hname)
  · refine (expect _).seq fun _ => (patternWithDefault h).bind fun value hvalue => ?_
    exact node (.first hk (.first hvalue .none)) rfl

theorem objectPattern (h : rules.Sound) :
    Reads x (Grammar.objectPattern rules) (·.IsA isPattern) := by
  refine start.seq fun _ => (expect _).seq fun _ => ?_
  refine (listWithRest (patternProperty h) (restElement h _)).bind
    fun p ⟨hitems, hrest⟩ => ?_
  refine (forIn_option fun r _ => ?_).seq fun _ => (expect _).seq fun _ => ?_
  · refine (forIn_list fun p _ => ?_).seq fun _ => pure trivial
    exact ite (fun _ => (refuse _ _).never) fun _ => pure trivial
  · refine node (.after (.append ?_ ?_)) rfl
    · exact hitems.weaken fun k hk => by rw [hk, Bool.true_or]
    · exact hrest.weaken fun k hk => by rw [hk, Bool.or_true]

theorem arrayPatternElement (h : rules.Sound) :
    Reads x (Grammar.arrayPatternElement rules)
      (·.IsA fun k => k == .hole || k.isBindingElement) := by
  refine (at_ _).seq fun comma => ite (fun _ => ?_) fun _ => ?_
  · exact cur.seq fun t => pure (.node .none rfl)
  · exact (patternWithDefault h).mono fun p hp => hp.weaken fun k hk => by rw [hk, Bool.or_true]

theorem arrayPattern (h : rules.Sound) :
    Reads x (Grammar.arrayPattern rules) (·.IsA isPattern) := by
  refine start.seq fun _ => (expect _).seq fun _ => ?_
  refine (listWithRest (arrayPatternElement h) (restElement h _)).bind
    fun p ⟨hitems, hrest⟩ => (expect _).seq fun _ => ?_
  refine node (.after (.append ?_ ?_)) rfl
  · exact hitems.weaken fun k hk => by rw [hk, Bool.true_or]
  · exact hrest.weaken fun k hk => by rw [hk, Bool.or_true]

theorem pattern (h : rules.Sound) : Reads x (Grammar.pattern rules) (·.IsA isPattern) := by
  refine (at_ _).seq fun _ => ite (fun _ => objectPattern h) fun _ => ?_
  refine (at_ _).seq fun _ => ite (fun _ => arrayPattern h) fun _ => ?_
  exact boundName.mono fun n hn => hn.weaken fun _ => isPattern_of_isPlainName

/-! ## Assigning -/

section

variable {toTarget : Tree → Reader Tree}

theorem targetElement (h : ∀ t, t.IsA isExpression → Reads x (toTarget t) (·.IsA isTarget))
    {e : Tree} (he : e.IsA isExpression) :
    Reads x (Grammar.targetElement toTarget e) (·.IsA isTargetElement) := by
  rw [Grammar.targetElement]
  split
  · next hk =>
    have hkind := he.kind
    rw [hk] at hkind
    cases hkind
  · next sign hk =>
    have hfits := he.wellFormed.fits
    rw [hk] at hfits
    exact pure (.node hfits rfl)
  · exact (h e he).mono fun t ht => ht.weaken fun _ => isTargetElement_of_isTarget

theorem targetRest (h : ∀ t, t.IsA isExpression → Reads x (toTarget t) (·.IsA isTarget))
    {place place' : DotsPlace} {e : Tree} (hwf : e.WellFormed) (hk : e.kind = .spread place') :
    Reads x (Grammar.targetRest toTarget place e) (·.IsA (isRest place)) := by
  have hfits := hwf.fits
  rw [hk] at hfits
  obtain ⟨v, vs, hv, hexp, hnone⟩ := hfits.exists_first
  rw [Grammar.targetRest, hv, hnone.eq_nil]
  have hone : Reads x ([v].mapM toTarget) fun ps => ∃ p, ps = [p] ∧ p.IsA isTarget := by
    rw [List.mapM_cons]
    apply (h v hexp).bind
    intro p hp
    exact pure ⟨p, rfl, hp⟩
  apply hone.bind
  intro ps hps
  obtain ⟨p, rfl, hp⟩ := hps
  refine pure (.node (.first (hp.weaken fun k hk => ?_) .none) (beq_self_eq_true _))
  rw [hk, Bool.or_true]

theorem arrayTargetElement (h : ∀ t, t.IsA isExpression → Reads x (toTarget t) (·.IsA isTarget))
    {trailing : Option Nat} {isLast : Bool} {e : Tree}
    (he : e.IsA fun k => k == .hole || k.isSpread .arrayElement || k.isExpression) :
    Reads x (Grammar.arrayTargetElement toTarget trailing isLast e)
      (·.IsA fun k => k == .hole || k.isTargetElement || k.isRest .arrayTarget) := by
  rw [Grammar.arrayTargetElement]
  split
  · next place hk =>
    refine ite (fun _ => ?_) fun _ => refuse _ _
    apply (targetRest h he.wellFormed hk).bind
    intro r hr
    refine (forIn_option fun comma _ => ?_).seq fun _ => ?_
    · exact (complain _ _).seq fun _ => pure trivial
    · exact pure (hr.weaken fun k hk => by rw [hk, Bool.or_true])
  · next hspread =>
    have hno : e.kind.isSpread .arrayElement = false := by
      simpa [isSpread] using hspread .arrayElement
    have hkind := he.kind
    rw [hno, Bool.or_false] at hkind
    rcases Bool.or_eq_true_iff.1 hkind with hhole | hexp
    · have hk : e.kind = .hole := eq_of_beq hhole
      rw [Grammar.targetElement, hk]
      exact pure ⟨he.wellFormed, by rw [hk]; rfl⟩
    · refine (targetElement h ⟨he.wellFormed, hexp⟩).mono fun t ht => ht.weaken fun k hk => ?_
      rw [hk, Bool.or_true, Bool.true_or]

theorem fits_shorthandDefault {value : List Tree}
    (h : Content.Fits { optional := [(· == .assignment "=")] } value) :
    Content.Fits { optional := [isExpression] } (Grammar.shorthandDefault value) := by
  rcases h.eq_nil_or_optional with rfl | ⟨v, vs, rfl, hv, hvs⟩
  · exact .noOptional
  · have hk : v.kind = .assignment "=" := eq_of_beq hv.kind
    have hfits := hv.wellFormed.fits
    rw [hk] at hfits
    obtain ⟨t, ts, hparts, _, hrest⟩ := hfits.exists_first
    obtain ⟨e, es, rfl, he, hes⟩ := hrest.exists_first
    have hdefault : Grammar.shorthandDefault (v :: vs) = [e] := by
      rw [hvs.eq_nil, Grammar.shorthandDefault, List.flatMap_singleton, hk, hparts, hes.eq_nil]
      rfl
    rw [hdefault]
    exact .optional he .none

theorem objectTargetProperty
    (h : ∀ t, t.IsA isExpression → Reads x (toTarget t) (·.IsA isTarget))
    {isLast : Bool} {p : Tree} (hp : p.IsA fun k => k.isProperty || k.isSpread .objectProperty) :
    Reads x (Grammar.objectTargetProperty toTarget isLast p)
      (·.IsA fun k => k.isTargetProperty || k.isRest .objectTarget) := by
  rw [Grammar.objectTargetProperty]
  have hfits := hp.wellFormed.fits
  split
  · next place hk =>
    refine ite (fun _ => ?_) fun _ => refuse _ _
    exact (targetRest h hp.wellFormed hk).mono fun r hr =>
      hr.weaken fun k hk => by rw [hk, Bool.or_true]
  · next form computed name value hk hparts =>
    rw [hk, hparts] at hfits
    refine seq ?_ fun _ => ?_
    · exact modifies (fun _ => rfl) (fun _ => rfl) (fun _ => rfl) fun _ _ _ => rfl
    obtain ⟨hname, hvalue⟩ := hfits.of_cons
    exact pure (.node (.first hname (fits_shorthandDefault hvalue)) rfl)
  · next form computed name value hk hparts =>
    rw [hk, hparts] at hfits
    obtain ⟨hname, hrest⟩ := hfits.of_cons
    obtain ⟨hvalue, _⟩ := hrest.of_cons
    exact (targetElement h hvalue).bind fun v hv =>
      pure (.node (.first hname (.first hv .none)) rfl)
  · exact refuse _ _

end

theorem target (n : Nat) {t : Tree} (ht : t.IsA isExpression) :
    Reads x (Grammar.target n t) (·.IsA isTarget) := by
  induction n generalizing t with
  | zero => exact throw _
  | succ n ih =>
    have hfits := ht.wellFormed.fits
    rw [Grammar.target]
    split
    · next hk => exact pure ⟨ht.wellFormed, by rw [hk]; rfl⟩
    · next hk => exact pure ⟨ht.wellFormed, by rw [hk]; rfl⟩
    · next inner hk hparts =>
      rw [hk, hparts] at hfits
      obtain ⟨hinner, _⟩ := hfits.of_cons
      split
      · exact refuse _ _
      · exact refuse _ _
      · exact ih hinner
    · next trailing hk =>
      rw [hk] at hfits
      refine (mapM fun p hp => ?_).bind fun ps hps => pure (.node (.after hps) rfl)
      refine arrayTargetElement (fun t ht => ih ht) ?_
      exact hfits.all_after _ (List.fst_mem_of_mem_zipIdx hp)
    · next hk =>
      rw [hk] at hfits
      refine (mapM fun p hp => ?_).bind fun ps hps => pure (.node (.after hps) rfl)
      refine objectTargetProperty (fun t ht => ih ht) ?_
      exact hfits.all_after _ (List.fst_mem_of_mem_zipIdx hp)
    · exact refuse _ _

theorem assignmentTarget {t : Tree} (ht : t.IsA isExpression) :
    Reads x (Grammar.assignmentTarget t) (·.IsA isTarget) :=
  limit.seq fun _ => target _ ht

/-- Neither is a pattern in parentheses a target. -/
theorem target_of_notPattern (n : Nat) {t : Tree} (ht : t.IsA isExpression)
    (hobject : t.kind ≠ .object) (harray : ∀ comma, t.kind ≠ .array comma) :
    Reads x (Grammar.target n t) (·.IsA isSimpleTarget) := by
  induction n generalizing t with
  | zero => exact throw _
  | succ n ih =>
    have hfits := ht.wellFormed.fits
    rw [Grammar.target]
    split
    · next hk => exact pure ⟨ht.wellFormed, by rw [hk]; rfl⟩
    · next hk => exact pure ⟨ht.wellFormed, by rw [hk]; rfl⟩
    · next inner hk hparts =>
      rw [hk, hparts] at hfits
      obtain ⟨hinner, _⟩ := hfits.of_cons
      split
      · exact refuse _ _
      · exact refuse _ _
      · next hobject harray => exact ih hinner hobject harray
    · next comma hk => exact absurd hk (harray comma)
    · next hk => exact absurd hk hobject
    · exact refuse _ _

theorem simpleTarget {t : Tree} (ht : t.IsA isExpression) :
    Reads x (Grammar.simpleTarget t) (·.IsA isSimpleTarget) := by
  rw [Grammar.simpleTarget]
  split
  · exact refuse _ _
  · exact refuse _ _
  · next hobject harray => exact limit.seq fun _ => target_of_notPattern _ ht hobject harray

end Reads

end PluginAudit.Script
