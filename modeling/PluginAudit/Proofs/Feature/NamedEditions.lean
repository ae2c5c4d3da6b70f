import PluginAudit.Proofs.Feature.Earliest
import PluginAudit.Proofs.Grammar.Program

/-!
# Editions named for functions and loops

A function or a `for`-`of` loop may use several features, and a report names the edition of the
first that is above the level. At that edition the same node may be reported once more, which is so
for async generators, async arrow functions and `for await` loops at old levels only.
-/

namespace PluginAudit.Script

namespace Kind

def isFunctionOrForOf : Kind → Bool
  | .function .. | .arrow _ | .forOf _ => true
  | _ => false

/-- From this level on at most one use of a function or loop is above the level. -/
def settled : Kind → Edition
  | .function _ true true => .es2017
  | .arrow true | .forOf true => .es2015
  | _ => .es5

end Kind

/-- The report at a level is about the node with `before` before it in the walk, for its use
`f`. -/
structure Tree.Blames (t : Tree) (level : Edition) (before : List Tree) (n : Tree)
    (after : List Tree) (f : Feature) : Prop where
  nodes_eq : t.nodes = before ++ n :: after
  use : n.features.find? (level < ·.edition) = some f
  first : ∀ m ∈ before, ∀ g ∈ m.features, level < g.edition → n.start < m.start
  report : Finding.firstAbove? level t.findings = some ⟨f, n.start⟩

namespace Tree

variable {t n : Tree} {level : Edition} {before after : List Tree} {f : Feature}

theorem findings_of_nodes_eq (h : t.nodes = before ++ n :: after) :
    t.findings = before.flatMap ownFindings ++ (n.ownFindings ++ after.flatMap ownFindings) := by
  have hflat : t.findings = t.nodes.flatMap ownFindings := rfl
  rw [hflat, h, List.flatMap_append, List.flatMap_cons]

theorem mem_flatMap_ownFindings {ns : List Tree} {g : Finding} :
    g ∈ ns.flatMap ownFindings ↔ ∃ m ∈ ns, g.feature ∈ m.features ∧ m.start = g.offset := by
  constructor
  · intro h
    obtain ⟨m, hm, hg⟩ := List.mem_flatMap.1 h
    obtain ⟨k, hk, rfl⟩ := List.mem_map.1 hg
    exact ⟨m, hm, hk, rfl⟩
  · rintro ⟨m, hm, hk, hstart⟩
    exact List.mem_flatMap.2 ⟨m, hm, List.mem_map.2 ⟨g.feature, hk, by rw [hstart]⟩⟩

theorem report_of_use (hnodes : t.nodes = before ++ n :: after)
    (huse : n.features.find? (level < ·.edition) = some f)
    (hbefore : ∀ m ∈ before, ∀ g ∈ m.features, level < g.edition → n.start < m.start)
    (hafter : ∀ m ∈ after, ∀ g ∈ m.features, level < g.edition → n.start ≤ m.start) :
    Finding.firstAbove? level t.findings = some ⟨f, n.start⟩ := by
  obtain ⟨habove, fs, gs, hfeatures, hfs⟩ := List.find?_eq_some_iff_append.1 huse
  have hown : n.ownFindings =
      fs.map (⟨·, n.start⟩) ++ ⟨f, n.start⟩ :: gs.map (⟨·, n.start⟩) := by
    rw [ownFindings, hfeatures, List.map_append, List.map_cons]
  have hfirst : Finding.IsFirstAbove level
      (before.flatMap ownFindings ++ fs.map (⟨·, n.start⟩)) ⟨f, n.start⟩
      (gs.map (⟨·, n.start⟩) ++ after.flatMap ownFindings) := by
    refine ⟨of_decide_eq_true habove, List.forall_mem_append.2 ⟨?_, ?_⟩,
      List.forall_mem_append.2 ⟨?_, ?_⟩⟩
    · intro g hg hlevel
      obtain ⟨m, hm, hgm, hstart⟩ := mem_flatMap_ownFindings.1 hg
      exact hstart ▸ hbefore m hm g.feature hgm hlevel
    · intro g hg hlevel
      obtain ⟨k, hk, rfl⟩ := List.mem_map.1 hg
      have hnot := hfs k hk
      simp only [Bool.not_eq_true', decide_eq_false_iff_not] at hnot
      exact absurd hlevel hnot
    · intro g hg _
      obtain ⟨k, _, rfl⟩ := List.mem_map.1 hg
      exact Nat.le_refl _
    · intro g hg hlevel
      obtain ⟨m, hm, hgm, hstart⟩ := mem_flatMap_ownFindings.1 hg
      exact hstart ▸ hafter m hm g.feature hgm hlevel
  rw [← hfirst.firstAbove?_eq, findings_of_nodes_eq hnodes, hown]
  simp only [List.append_assoc, List.cons_append]

theorem offset_le_of_report {x : Finding} (hreport : Finding.firstAbove? level t.findings = some x)
    {m : Tree} (hm : m ∈ t.nodes) {g : Feature} (hg : g ∈ m.features) (hlevel : level < g.edition) :
    x.offset ≤ m.start := by
  have hfinding : (⟨g, m.start⟩ : Finding) ∈ t.findings := mem_findings.2 ⟨m, hm, hg, rfl⟩
  exact Finding.offset_le_of_firstAbove? hreport hfinding hlevel

theorem above_of_find? {fs : List Feature} (h : fs.find? (level < ·.edition) = some f) :
    level < f.edition := by
  have habove := List.find?_some h
  exact of_decide_eq_true habove

theorem exists_find?_above {fs : List Feature} (h : ∃ g ∈ fs, level < g.edition) :
    ∃ f, fs.find? (level < ·.edition) = some f := by
  obtain ⟨g, hg, hlevel⟩ := h
  have hsome : (fs.find? (level < ·.edition)).isSome :=
    List.find?_isSome.2 ⟨g, hg, decide_eq_true hlevel⟩
  exact Option.isSome_iff_exists.1 hsome

/-- Whether the node may be the one that a report at the offset is about. -/
def isCulprit (level : Edition) (offset : Nat) (n : Tree) : Bool :=
  n.start == offset && n.features.any (level < ·.edition)

theorem isCulprit_iff {offset : Nat} : n.isCulprit level offset = true ↔
    n.start = offset ∧ ∃ g ∈ n.features, level < g.edition := by
  simp [isCulprit]

/-- Every report is about a node. -/
theorem exists_blames {x : Finding} (h : Finding.firstAbove? level t.findings = some x) :
    ∃ before n after, t.Blames level before n after x.feature ∧ n.start = x.offset := by
  obtain ⟨m, hm, hxm, hstart⟩ := mem_findings.1 (Finding.mem_of_firstAbove? h)
  have hculprit : m.isCulprit level x.offset = true :=
    isCulprit_iff.2 ⟨hstart, x.feature, hxm, Finding.above_of_firstAbove? h⟩
  -- of the nodes at the offset that have a use above the level, the first
  obtain ⟨n, hfind⟩ := Option.isSome_iff_exists.1 (List.find?_isSome.2 ⟨m, hm, hculprit⟩)
  obtain ⟨hn, before, after, hnodes, hothers⟩ := List.find?_eq_some_iff_append.1 hfind
  obtain ⟨hoffset, huses⟩ := isCulprit_iff.1 hn
  obtain ⟨f, hf⟩ := exists_find?_above huses
  have hle : ∀ k ∈ t.nodes, ∀ g ∈ k.features, level < g.edition → n.start ≤ k.start :=
    fun k hk g hg hlevel => hoffset ▸ offset_le_of_report h hk hg hlevel
  have hbefore : ∀ k ∈ before, ∀ g ∈ k.features, level < g.edition → n.start < k.start := by
    intro k hk g hg hlevel
    have hkn : n.start ≤ k.start := hle k (hnodes ▸ List.mem_append_left _ hk) g hg hlevel
    have hne : n.start ≠ k.start := by
      intro heq
      have hnot := hothers k hk
      rw [isCulprit_iff.2 ⟨heq ▸ hoffset, g, hg, hlevel⟩] at hnot
      cases hnot
    exact Nat.lt_of_le_of_ne hkn hne
  have hreport := report_of_use hnodes hf hbefore fun k hk =>
    hle k (hnodes ▸ List.mem_append_right _ (List.mem_cons_of_mem _ hk))
  obtain rfl : x = ⟨f, n.start⟩ := Option.some.inj (h.symm.trans hreport)
  exact ⟨before, n, after, ⟨hnodes, hf, hbefore, hreport⟩, rfl⟩

/-- At the edition that a report names, the same node is reported exactly if it has a use that is
newer still. -/
theorem Blames.again_iff (h : t.Blames level before n after f) :
    (∃ g, t.Blames f.edition before n after g) ↔ ∃ g ∈ n.features, f.edition < g.edition := by
  have hlevel : level < f.edition := above_of_find? h.use
  constructor
  · rintro ⟨g, hg⟩
    exact ⟨g, List.mem_of_find?_eq_some hg.use, above_of_find? hg.use⟩
  · intro hnewer
    obtain ⟨k, hk⟩ := exists_find?_above hnewer
    have hbefore : ∀ m ∈ before, ∀ g ∈ m.features, f.edition < g.edition → n.start < m.start :=
      fun m hm g hg habove => h.first m hm g hg (Nat.lt_trans hlevel habove)
    have hafter : ∀ m ∈ after, ∀ g ∈ m.features, f.edition < g.edition → n.start ≤ m.start := by
      intro m hm g hg habove
      have hmem : m ∈ t.nodes :=
        h.nodes_eq ▸ List.mem_append_right _ (List.mem_cons_of_mem _ hm)
      exact offset_le_of_report h.report hmem hg (Nat.lt_trans hlevel habove)
    exact ⟨k, h.nodes_eq, hk, hbefore, report_of_use h.nodes_eq hk hbefore hafter⟩

/-! ## Functions and loops -/

theorem newer_functionFeatures (async generator : Bool) :
    ∀ f ∈ (functionFeatures async generator).find? (level < ·.edition),
      ((∃ g ∈ functionFeatures async generator, f.edition < g.edition) ↔
        level < (Kind.function .statement async generator).settled) := by
  cases async <;> cases generator <;> cases level <;> decide

theorem newer_arrowFeatures (async : Bool) :
    ∀ f ∈ (Feature.arrowFunction :: featureIf async .asyncFunction).find? (level < ·.edition),
      ((∃ g ∈ Feature.arrowFunction :: featureIf async .asyncFunction, f.edition < g.edition) ↔
        level < (Kind.arrow async).settled) := by
  cases async <;> cases level <;> decide

theorem newer_forOfFeatures (isAwait : Bool) :
    ∀ f ∈ (Feature.forOf :: featureIf isAwait .forAwait).find? (level < ·.edition),
      ((∃ g ∈ Feature.forOf :: featureIf isAwait .forAwait, f.edition < g.edition) ↔
        level < (Kind.forOf isAwait).settled) := by
  cases isAwait <;> cases level <;> decide

theorem newer_use_iff (hk : n.kind.isFunctionOrForOf = true)
    (huse : n.features.find? (level < ·.edition) = some f) :
    (∃ g ∈ n.features, f.edition < g.edition) ↔ level < n.kind.settled := by
  cases hkind : n.kind with
  | function place async generator =>
    have hsettled : (Kind.function place async generator).settled =
        (Kind.function .statement async generator).settled := by
      cases async <;> cases generator <;> rfl
    cases place with
    | statement | expression =>
      have hfeatures : n.features = functionFeatures async generator := by
        simp only [features, hkind, placedFeatures]
      rw [hfeatures] at huse ⊢
      rw [hsettled]
      exact newer_functionFeatures async generator f huse
    | method | «export» =>
      -- such a function is not looked at, so nothing is reported for it
      have hfeatures : n.features = [] := by
        simp only [features, hkind, placedFeatures]
      rw [hfeatures] at huse
      cases huse
  | arrow async =>
    have hfeatures : n.features = .arrowFunction :: featureIf async .asyncFunction := by
      simp only [features, hkind]
    rw [hfeatures] at huse ⊢
    exact newer_arrowFeatures async f huse
  | forOf isAwait =>
    have hfeatures : n.features = .forOf :: featureIf isAwait .forAwait := by
      simp only [features, hkind]
    rw [hfeatures] at huse ⊢
    exact newer_forOfFeatures isAwait f huse
  | _ =>
    rw [hkind] at hk
    cases hk

end Tree

/-- Every report is about one node. If that is a function or a `for`-`of` loop, it is not reported
again at the edition named, exactly if the level is not below that from which on the node has one
use left to report. -/
theorem named_edition_enough_iff (t : Tree) (level : Edition) :
    (∀ x, Finding.firstAbove? level t.findings = some x →
      ∃ before n after, t.Blames level before n after x.feature ∧ n.start = x.offset) ∧
    ∀ before n after f, t.Blames level before n after f → n.kind.isFunctionOrForOf = true →
      ((∀ g, ¬ t.Blames f.edition before n after g) ↔ n.kind.settled ≤ level) := by
  refine ⟨fun x => Tree.exists_blames, fun before n after f h hk => ?_⟩
  have hagain : (∃ g, t.Blames f.edition before n after g) ↔ level < n.kind.settled :=
    h.again_iff.trans (Tree.newer_use_iff hk h.use)
  rw [← not_exists, hagain]
  exact Nat.not_lt

/-- A report at the start of the script `async function *g() {}` is about its generator. -/
theorem exists_blames_async_generator (level : Edition) (f : Feature)
    (hcheck : (read false "async function *g() \x7b\x7d".toList).toOption.any (fun t =>
      Finding.firstAbove? level t.findings = some ⟨f, 0⟩ ∧
        ∀ n ∈ t.nodes, n.features ≠ [] → n.kind = .function .statement true true) = true) :
    ∃ tree before n after, read false "async function *g() \x7b\x7d".toList = .ok tree ∧
      n.kind = .function .statement true true ∧ tree.Blames level before n after f := by
  obtain ⟨tree, hread, hcheck⟩ := exists_read false _ _ hcheck
  obtain ⟨hreport, hkind⟩ := of_decide_eq_true hcheck
  obtain ⟨before, n, after, hblames, _⟩ := Tree.exists_blames hreport
  have hmem : n ∈ tree.nodes :=
    hblames.nodes_eq ▸ List.mem_append_right _ (List.mem_cons_self ..)
  have hfeatures : n.features ≠ [] := List.ne_nil_of_mem (List.mem_of_find?_eq_some hblames.use)
  exact ⟨tree, before, n, after, hread, hkind n hmem hfeatures, hblames⟩

theorem async_generator_named_at_es2017 :
    ∃ tree before n after, read false "async function *g() \x7b\x7d".toList = .ok tree ∧
      n.kind = .function .statement true true ∧
      tree.Blames .es2017 before n after .asyncGenerator ∧
      ∀ g, ¬ tree.Blames Feature.asyncGenerator.edition before n after g := by
  obtain ⟨tree, before, n, after, hread, hkind, hblames⟩ :=
    exists_blames_async_generator .es2017 .asyncGenerator (by decide +kernel)
  have henough := (named_edition_enough_iff tree .es2017).2 before n after _ hblames
    (by rw [hkind]; rfl)
  exact ⟨tree, before, n, after, hread, hkind, hblames, henough.2 (by rw [hkind]; decide)⟩

/-- At the edition that brought generators an async one is reported again. -/
theorem async_generator_named_twice :
    ∃ tree before n after, read false "async function *g() \x7b\x7d".toList = .ok tree ∧
      n.kind = .function .statement true true ∧
      tree.Blames .es5 before n after .generatorFunction ∧
      ∃ g, tree.Blames Feature.generatorFunction.edition before n after g := by
  obtain ⟨tree, before, n, after, hread, hkind, hblames⟩ :=
    exists_blames_async_generator .es5 .generatorFunction (by decide +kernel)
  have hnewer : ∃ g ∈ n.features, Feature.generatorFunction.edition < g.edition := by
    refine ⟨.asyncGenerator, ?_, by decide⟩
    simp [Tree.features, hkind, placedFeatures, functionFeatures, featureIf]
  exact ⟨tree, before, n, after, hread, hkind, hblames, hblames.again_iff.2 hnewer⟩

end PluginAudit.Script
