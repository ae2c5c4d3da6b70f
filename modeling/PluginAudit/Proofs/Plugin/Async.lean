import PluginAudit.Proofs.Plugin.Acceptance
import PluginAudit.Proofs.Tree.Nodes

/-!
# Async functions in accepted texts

Below the edition that brought them, async functions are found where functions stand as
statements or in expressions, and pass as methods of classes and in exports.
-/

namespace PluginAudit.Script

namespace Kind

def isAsync : KindClass
  | .function _ async _ => async
  | .arrow async => async
  | _ => false

/-- The parts of such a node may be functions whose flags are not looked at. -/
def holdsUnseen (k : Kind) : Bool := k == .method || k == .exportNamed || k == .exportDefault

end Kind

namespace Tree

def NoAsync (t : Tree) : Prop :=
  ∀ n ∈ t.nodes, n.kind.isAsync = false

def NoUnseenAsync (t : Tree) : Prop :=
  ∀ m ∈ t.nodes, m.kind.holdsUnseen = true → ∀ p ∈ m.parts, p.kind.isAsync = false

instance (t : Tree) : Decidable t.NoAsync :=
  inferInstanceAs (Decidable (∀ n ∈ t.nodes, n.kind.isAsync = false))

instance (t : Tree) : Decidable t.NoUnseenAsync :=
  inferInstanceAs (Decidable
    (∀ m ∈ t.nodes, m.kind.holdsUnseen = true → ∀ p ∈ m.parts, p.kind.isAsync = false))

variable {t n : Tree}

/-- An async function has its finding at its own node or is one that nothing looks at. -/
theorem IsA.async_found (ht : t.IsA (· == .program)) (hn : n ∈ t.nodes)
    (hasync : n.kind.isAsync = true) :
    .asyncFunction ∈ n.features ∨ ∃ m ∈ t.nodes, m.kind.holdsUnseen = true ∧ n ∈ m.parts := by
  have hparent : n = t ∨ ∃ m ∈ t.nodes, n ∈ m.parts := eq_or_mem_parts hn
  have hnotProgram : n ≠ t := by
    rintro rfl
    rw [eq_of_beq ht.kind] at hasync
    cases hasync
  obtain ⟨m, hm, hnm⟩ := hparent.resolve_left hnotProgram
  have hmentions := (ht.wellFormed.of_mem_nodes hm).mentions hnm
  cases hk : n.kind with
  | arrow async =>
    obtain rfl : async = true := by rwa [hk] at hasync
    exact .inl (by simp [features, hk, featureIf])
  | function place async generator =>
    obtain rfl : async = true := by rwa [hk] at hasync
    rw [hk] at hmentions
    cases place with
    | statement | expression =>
      exact .inl (by simp [features, hk, placedFeatures, functionFeatures, featureIf])
    -- the walk reaches these two by their parent and has no arm for them
    | method =>
      obtain hmk := Kind.method_of_mentions hmentions
      exact .inr ⟨m, hm, by rw [hmk]; rfl, hnm⟩
    | «export» =>
      rcases Kind.export_of_mentions (.inr ⟨_, _, rfl⟩) hmentions with hmk | hmk <;>
        exact .inr ⟨m, hm, by rw [hmk]; rfl, hnm⟩
  | _ =>
    rw [hk] at hasync
    cases hasync

/-- Among scripts that pass an older edition, those with an async function are those with one
that nothing looks at. -/
theorem noAsync_iff {full : List Char} {edition : Edition} (hedition : edition < .es2017)
    (hread : read false full = .ok t)
    (hlevel : Finding.firstAbove? edition t.findings = none) : t.NoAsync ↔ t.NoUnseenAsync := by
  constructor
  · intro h m hm _ p hp
    exact h p (mem_nodes_of_mem_parts hp hm)
  · intro h n hn
    by_contra hasync
    rw [Bool.not_eq_false] at hasync
    rcases (isProgram_of_read hread).async_found hn hasync with hfound | ⟨m, hm, hholds, hnm⟩
    · exact Finding.not_above_of_feature hlevel hn hfound hedition
    · rw [h m hm hholds n hnm] at hasync
      cases hasync

end Tree

end PluginAudit.Script

namespace PluginAudit.Plugin

open Script

/-- The tree of an accepted text exists and, as to async functions, is told by methods and
exports alone. -/
def AsyncUnseen (full : List Char) : Prop :=
  ∃ tree, read false full = .ok tree ∧ (tree.NoAsync ↔ tree.NoUnseenAsync)

theorem Passes.asyncUnseen {full : List Char} {edition : Edition} (h : Passes full edition)
    (hedition : edition < .es2017) : AsyncUnseen full := by
  obtain ⟨tree, hread, hlevel⟩ := h
  exact ⟨tree, hread, Tree.noAsync_iff hedition hread hlevel⟩

theorem passes_of_isValid_dom {text : List Char}
    (hdom : (classify text).category = .domExecuting)
    (h : (validate text).verdict.isValid = true) : Passes (wrap text) .es2015 := by
  have hvalid := isValid_judge.1 h
  have hedition : (classify text).edition = .es2015 := by rw [edition_classify, hdom]; rfl
  rw [hdom, if_pos (show Category.domExecuting.singleEntryPoint = true from rfl), hedition]
    at hvalid
  exact hvalid.2

/-- However a text is accepted below the edition of async functions, it has none exactly if no
method of a class and no exported function is one. -/
theorem async_unseen_below_es2017 {text : List Char} {edition : Edition}
    (hedition : edition < .es2017) :
    (∀ r, accept text edition = .ok r → AsyncUnseen (r.full text)) ∧
    (∀ r, acceptWrapped text edition = .ok r → AsyncUnseen (wrap text)) ∧
    ((classify text).category = .domExecuting → (validate text).verdict.isValid = true →
      AsyncUnseen (wrap text)) := by
  refine ⟨fun r h => ?_, fun r h => ?_, fun hdom h => ?_⟩
  · exact (passes_of_accept h).asyncUnseen hedition
  · exact (acceptWrapped_eq_ok.1 h).2.asyncUnseen hedition
  · exact (passes_of_isValid_dom hdom h).asyncUnseen (by decide)

theorem async_unseen_of_member :
    Edition.es2015 < .es2017 ∧
      accept "a = class \x7b m() \x7b\x7d \x7d".toList .es2015 = .ok ⟨.es2015, false⟩ ∧
      AsyncUnseen "a = class \x7b m() \x7b\x7d \x7d".toList := by
  obtain ⟨tree, hread, hcheck⟩ := exists_read false "a = class \x7b m() \x7b\x7d \x7d".toList
    (fun t => Finding.firstAbove? .es2015 t.findings = none) (by decide +kernel)
  have haccept := accept_eq_ok.2 (.inl ⟨rfl, tree, hread, of_decide_eq_true hcheck⟩)
  have hunseen := (async_unseen_below_es2017 (by decide)).1 _ haccept
  rw [Accepted.full, if_neg Bool.false_ne_true] at hunseen
  exact ⟨by decide, haccept, hunseen⟩

theorem async_method_in_es2015 :
    ∃ tree, accept "class A \x7b async m() \x7b\x7d \x7d".toList .es2015 = .ok ⟨.es2015, false⟩ ∧
      read false "class A \x7b async m() \x7b\x7d \x7d".toList = .ok tree ∧ ¬ tree.NoAsync := by
  obtain ⟨tree, hread, hcheck⟩ := exists_read false "class A \x7b async m() \x7b\x7d \x7d".toList
    (fun t => Finding.firstAbove? .es2015 t.findings = none ∧ ¬ t.NoAsync) (by decide +kernel)
  obtain ⟨hlevel, hasync⟩ := of_decide_eq_true hcheck
  exact ⟨tree, accept_eq_ok.2 (.inl ⟨rfl, tree, hread, hlevel⟩), hread, hasync⟩

end PluginAudit.Plugin
