import PluginAudit.Proofs.Plugin.Acceptance
import PluginAudit.Proofs.Tree.Nodes

/-!
# Destructuring in accepted texts

The oldest edition has no destructuring. It is found in declarators, parameters and assignments,
and passes as the parameter of a `catch` and in the head of a `for`-`in`.
-/

namespace PluginAudit.Script

namespace Kind

def isDestructuring : KindClass
  | .objectPattern | .arrayPattern | .objectTarget | .arrayTarget => true
  | _ => false

/-- What stands within patterns or around them, up to what binds or assigns. -/
def isPatternPiece : KindClass
  | .patternProperty .. | .targetProperty .. | .defaulted | .defaultedTarget | .rest _ => true
  | k => k.isDestructuring

/-- What binds or assigns by a pattern that nothing looks at. -/
def holdsUnseenPattern : KindClass
  | .catchClause _ | .forIn => true
  | _ => false

variable {k p : Kind}

theorem isPatternPiece_of_isDestructuring (h : p.isDestructuring = true) :
    p.isPatternPiece = true := by
  cases p <;> first | rfl | cases h

theorem not_isPatternPiece_of_isExpression (h : p.isExpression = true) :
    p.isPatternPiece = false := by
  cases p <;> first | rfl | exact absurd h Bool.false_ne_true

theorem holder_of_mentions (hp : p.isPatternPiece = true) (hk : k.isPatternPiece = false)
    (hunseen : k.holdsUnseenPattern = false) (h : k.content.mentions p = true) :
    k = .declarator ∨ k = .parameter ∨ k = .parameters ∨ (∃ sign, k = .assignment sign) ∨
      ∃ isAwait, k = .forOf isAwait := by
  cases p with
  | objectPattern | arrayPattern | objectTarget | arrayTarget | patternProperty | targetProperty
  | defaulted | defaultedTarget | rest =>
    cases k with
    | declarator | parameter | parameters | assignment | forOf => simp
    | forIn | catchClause => cases hunseen
    | property form computed shorthand => cases shorthand <;> cases h
    | _ => first | (cases hk; done) | cases h
  | _ => cases hp

theorem isDestructuring_of_unseen (hk : k.holdsUnseenPattern = true)
    (hp : p.isPatternPiece = true) (h : k.content.mentions p = true) :
    p.isDestructuring = true := by
  cases k with
  | catchClause bound => cases bound <;> cases p <;> first | rfl | (cases hp; done) | cases h
  | forIn => cases p <;> first | rfl | (cases hp; done) | cases h
  | _ => cases hk

end Kind

namespace Tree

def NoDestructuring (t : Tree) : Prop :=
  ∀ n ∈ t.nodes, n.kind.isDestructuring = false

/-- A pattern for what a `catch` caught or a `for`-`in` goes through. -/
def IsUnseenPattern (t p : Tree) : Prop :=
  p.kind.isDestructuring = true ∧ ∃ m ∈ t.nodes, m.kind.holdsUnseenPattern = true ∧ p ∈ m.parts

instance (t : Tree) : Decidable t.NoDestructuring :=
  inferInstanceAs (Decidable (∀ n ∈ t.nodes, n.kind.isDestructuring = false))

open Kind

variable {t m n p : Tree}

theorem bindingFeatures_ne_nil {qs : List Tree} (hpiece : p.kind.isPatternPiece = true)
    (hp : p.kind.isBindingElement = true) : bindingFeatures (p :: qs) ≠ [] := by
  rw [bindingFeatures]
  cases hk : p.kind with
  | objectPattern | arrayPattern | defaulted => exact List.cons_ne_nil _ _
  | _ => rw [hk] at hpiece hp; first | (cases hpiece; done) | cases hp

theorem assignmentFeatures_ne_nil {sign : String} {qs : List Tree}
    (hpiece : p.kind.isPatternPiece = true) (hp : p.kind.isTarget = true) :
    assignmentFeatures sign (p :: qs) ≠ [] := by
  rw [assignmentFeatures]
  cases hk : p.kind with
  | objectTarget | arrayTarget => exact List.append_ne_nil_of_right_ne_nil _ (List.cons_ne_nil _ _)
  | _ => rw [hk] at hpiece hp; first | (cases hpiece; done) | cases hp

theorem WellFormed.piece_found (hwf : m.WellFormed) (hp : p ∈ m.parts)
    (hpiece : p.kind.isPatternPiece = true) (hm : m.kind.isPatternPiece = false)
    (hunseen : m.kind.holdsUnseenPattern = false) : m.features ≠ [] ∨ p.features ≠ [] := by
  have hexpression : p.kind.isExpression = false :=
    Bool.eq_false_iff.2 fun h => by simp [not_isPatternPiece_of_isExpression h] at hpiece
  have hmentions := hwf.mentions hp
  have hfits := hwf.fits
  rcases holder_of_mentions hpiece hm hunseen hmentions with
    hk | hk | hk | ⟨sign, hk⟩ | ⟨isAwait, hk⟩
  all_goals rw [hk] at hmentions hfits
  · obtain ⟨qs, hparts, hpattern⟩ := hfits.eq_first hp (by simp [Content.mentions, hexpression])
    rw [features, hk, hparts]
    exact .inl (bindingFeatures_ne_nil hpiece (isBindingElement_of_isPattern hpattern))
  · have hdecorator : p.kind.isDecorator = false :=
      beq_eq_false_iff_ne.2 fun h => by rw [h] at hpiece; cases hpiece
    obtain ⟨qs, hparts, helement⟩ := hfits.eq_first hp (by simp [Content.mentions, hdecorator])
    rw [features, hk, hparts]
    exact .inl (bindingFeatures_ne_nil hpiece helement)
  · -- of parameters only the rest is a piece
    cases hpk : p.kind with
    | rest place =>
      rw [hpk] at hmentions
      obtain rfl := parametersRest_of_mentions hmentions
      exact .inr (by simp [features, hpk, restFeatures])
    | _ =>
      rw [hpk] at hpiece hmentions
      first | (cases hpiece; done) | cases hmentions
  · obtain ⟨qs, hparts, htarget⟩ := hfits.eq_first hp (by simp [Content.mentions, hexpression])
    rw [features, hk, hparts]
    exact .inl (assignmentFeatures_ne_nil hpiece htarget)
  · exact .inl (by simp [features, hk])

/-- In a script of the oldest edition every piece of a pattern is within one that nothing looks
at. -/
theorem IsA.piece_unseen (ht : t.IsA (· == .program))
    (hlevel : Finding.firstAbove? .es5 t.findings = none) :
    ∀ n ∈ t.nodes, n.kind.isPatternPiece = true → ∃ p, t.IsUnseenPattern p ∧ n ∈ p.nodes := by
  apply forall_nodes
  · intro hpiece
    rw [eq_of_beq ht.kind] at hpiece
    cases hpiece
  · intro m hm hpieces p hp hpiece
    have hwf := ht.wellFormed.of_mem_nodes hm
    have hmf := Finding.features_eq_nil_of_es5 hlevel hm
    have hpf := Finding.features_eq_nil_of_es5 hlevel (mem_nodes_of_mem_parts hp hm)
    by_cases hmpiece : m.kind.isPatternPiece = true
    · obtain ⟨q, hq, hmq⟩ := hpieces hmpiece
      exact ⟨q, hq, mem_nodes_of_mem_parts hp hmq⟩
    · by_cases hunseen : m.kind.holdsUnseenPattern = true
      · have hpattern := isDestructuring_of_unseen hunseen hpiece (hwf.mentions hp)
        exact ⟨p, ⟨hpattern, m, hm, hunseen, hp⟩, self_mem_nodes p⟩
      · rw [Bool.not_eq_true] at hmpiece hunseen
        rcases hwf.piece_found hp hpiece hmpiece hunseen with h | h
        · exact absurd hmf h
        · exact absurd hpf h

theorem IsUnseenPattern.mem_nodes (h : t.IsUnseenPattern p) : p ∈ t.nodes := by
  obtain ⟨_, m, hm, _, hp⟩ := h
  exact mem_nodes_of_mem_parts hp hm

end Tree

end PluginAudit.Script

namespace PluginAudit.Plugin

open Script

/-- The tree of an accepted text exists, and all destructuring in it is within patterns that
nothing looks at. -/
def DestructuringUnseen (full : List Char) : Prop :=
  ∃ tree, read false full = .ok tree ∧
    (∀ n ∈ tree.nodes, n.kind.isDestructuring = true → ∃ p, tree.IsUnseenPattern p ∧ n ∈ p.nodes) ∧
    (tree.NoDestructuring ↔ ∀ p, ¬ tree.IsUnseenPattern p)

theorem Passes.destructuringUnseen {full : List Char} (h : Passes full .es5) :
    DestructuringUnseen full := by
  obtain ⟨tree, hread, hlevel⟩ := h
  have hunseen : ∀ n ∈ tree.nodes, n.kind.isDestructuring = true →
      ∃ p, tree.IsUnseenPattern p ∧ n ∈ p.nodes := fun n hn h =>
    (isProgram_of_read hread).piece_unseen hlevel n hn (Kind.isPatternPiece_of_isDestructuring h)
  refine ⟨tree, hread, hunseen, ?_, ?_⟩
  · intro h p hp
    have hnone := h p hp.mem_nodes
    rw [hp.1] at hnone
    cases hnone
  · intro h n hn
    by_contra hpattern
    obtain ⟨p, hp, _⟩ := hunseen n hn (Bool.not_eq_false _ ▸ hpattern)
    exact h p hp

/-- However a text is accepted at the oldest edition, it has no destructuring but that of `catch`
parameters and of the heads of `for`-`in`, patterns within these included. -/
theorem destructuring_unseen_at_es5 {text : List Char} :
    (∀ r, accept text .es5 = .ok r → DestructuringUnseen (r.full text)) ∧
    (∀ r, acceptWrapped text .es5 = .ok r → DestructuringUnseen (wrap text)) :=
  ⟨fun _ h => (passes_of_accept h).destructuringUnseen,
    fun _ h => (acceptWrapped_eq_ok.1 h).2.destructuringUnseen⟩

theorem destructuring_unseen_in_for :
    acceptWrapped "for (a in b) return;".toList .es5 = .ok ⟨.es5, true⟩ ∧
      DestructuringUnseen (wrap "for (a in b) return;".toList) := by
  obtain ⟨tree, hread, hcheck⟩ := exists_read false (wrap "for (a in b) return;".toList)
    (fun t => Finding.firstAbove? .es5 t.findings = none) (by decide +kernel)
  have haccept := acceptWrapped_eq_ok.2 ⟨rfl, tree, hread, of_decide_eq_true hcheck⟩
  exact ⟨haccept, destructuring_unseen_at_es5.2 _ haccept⟩

/-- The parameter of a `catch` is not looked at. -/
theorem catch_destructures_in_es5 :
    ∃ tree, accept "try {} catch ({a}) {}".toList .es5 = .ok ⟨.es5, false⟩ ∧
      read false "try {} catch ({a}) {}".toList = .ok tree ∧
      ¬ tree.NoDestructuring := by
  obtain ⟨tree, hread, hcheck⟩ :=
    exists_read false "try {} catch ({a}) {}".toList
      (fun t => Finding.firstAbove? .es5 t.findings = none ∧ ¬ t.NoDestructuring)
      (by decide +kernel)
  obtain ⟨hlevel, hpattern⟩ := of_decide_eq_true hcheck
  exact ⟨tree, accept_eq_ok.2 (.inl ⟨rfl, tree, hread, hlevel⟩), hread, hpattern⟩

end PluginAudit.Plugin
