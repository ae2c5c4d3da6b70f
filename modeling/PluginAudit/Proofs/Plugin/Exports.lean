import PluginAudit.Proofs.Plugin.Acceptance
import PluginAudit.Proofs.Tree.Nodes

/-!
# Classes, generators and modules in accepted texts

The oldest edition has none of these. Classes and generators are found where they stand as
statements or in expressions, and pass in exports. Imports and exports pass as such.
-/

namespace PluginAudit.Script

namespace Kind

/-- A class, or a function that is a generator. -/
def isClassOrGenerator : KindClass
  | .classDefinition _ => true
  | .function _ _ generator => generator
  | _ => false

def isModuleDeclaration : KindClass
  | .importDeclaration | .exportNamed | .exportDefault | .exportAll => true
  | _ => false

/-- An export that may hold a class or function of its own. -/
def isExport (k : Kind) : Bool := k == .exportNamed || k == .exportDefault

theorem isModuleDeclaration_of_isExport {k : Kind} (h : k.isExport = true) :
    k.isModuleDeclaration = true := by
  cases k <;> first | rfl | cases h

theorem isExport_of_eq {k : Kind} (h : k = .exportNamed ∨ k = .exportDefault) :
    k.isExport = true := by
  rcases h with rfl | rfl <;> rfl

end Kind

namespace Tree

def NoModuleDeclaration (t : Tree) : Prop :=
  ∀ n ∈ t.nodes, n.kind.isModuleDeclaration = false

def NoClassGeneratorModule (t : Tree) : Prop :=
  ∀ n ∈ t.nodes, n.kind.isClassOrGenerator = false ∧ n.kind.isModuleDeclaration = false

instance (t : Tree) : Decidable t.NoClassGeneratorModule :=
  inferInstanceAs (Decidable
    (∀ n ∈ t.nodes, n.kind.isClassOrGenerator = false ∧ n.kind.isModuleDeclaration = false))

def IsWithinExport (t n : Tree) : Prop :=
  ∃ m ∈ t.nodes, m.kind.isExport = true ∧ n ∈ m.nodes

variable {t n m : Tree}

theorem isWithinExport_of_mem_parts (hm : m ∈ t.nodes) (hn : n ∈ m.parts)
    (h : m.kind = .exportNamed ∨ m.kind = .exportDefault) : t.IsWithinExport n :=
  ⟨m, hm, Kind.isExport_of_eq h, mem_nodes.2 (.inr ⟨n, hn, self_mem_nodes n⟩)⟩

theorem IsWithinExport.of_mem_nodes (h : t.IsWithinExport m) (hn : n ∈ m.nodes) :
    t.IsWithinExport n := by
  obtain ⟨e, he, hexport, hm⟩ := h
  exact ⟨e, he, hexport, mem_nodes_trans hn hm⟩

/-- A node of a script that is not the script itself is a part of a node that may hold it. -/
theorem IsA.exists_holder (ht : t.IsA (· == .program)) (hn : n ∈ t.nodes)
    (hk : n.kind ≠ .program) :
    ∃ m ∈ t.nodes, n ∈ m.parts ∧ m.kind.content.mentions n.kind = true := by
  have hnotRoot : n ≠ t := by
    rintro rfl
    exact hk (eq_of_beq ht.kind)
  have hparent : n = t ∨ ∃ m ∈ t.nodes, n ∈ m.parts := eq_or_mem_parts hn
  obtain ⟨m, hm, hnm⟩ := hparent.resolve_left hnotRoot
  have hwellFormed : m.WellFormed := ht.wellFormed.of_mem_nodes hm
  exact ⟨m, hm, hnm, hwellFormed.mentions hnm⟩

section

variable (ht : t.IsA (· == .program)) (hlevel : Finding.firstAbove? .es5 t.findings = none)
include ht hlevel

theorem IsA.class_within_export {place : Place} (hn : n ∈ t.nodes)
    (hk : n.kind = .classDefinition place) : t.IsWithinExport n := by
  have hfeatures : n.features = [] := Finding.features_eq_nil_of_es5 hlevel hn
  obtain ⟨m, hm, hnm, hmentions⟩ := ht.exists_holder hn (by rw [hk]; exact nofun)
  rw [hk] at hmentions
  cases place with
  | statement | expression => simp [features, hk, placedFeatures] at hfeatures
  | method => simp [Kind.not_mentions_classDefinition_method] at hmentions
  | «export» =>
    exact isWithinExport_of_mem_parts hm hnm (Kind.export_of_mentions (.inl rfl) hmentions)

theorem IsA.method_within_export (hn : n ∈ t.nodes) (hk : n.kind = .method) :
    t.IsWithinExport n := by
  obtain ⟨c, hc, hnc, hmentions⟩ := ht.exists_holder hn (by rw [hk]; exact nofun)
  rw [hk] at hmentions
  obtain ⟨place, hplace⟩ := Kind.classDefinition_of_mentions hmentions
  have hclass : t.IsWithinExport c := ht.class_within_export hlevel hc hplace
  exact hclass.of_mem_nodes (mem_nodes.2 (.inr ⟨n, hnc, self_mem_nodes n⟩))

theorem IsA.generator_within_export {place : Place} {async : Bool} (hn : n ∈ t.nodes)
    (hk : n.kind = .function place async true) : t.IsWithinExport n := by
  have hfeatures : n.features = [] := Finding.features_eq_nil_of_es5 hlevel hn
  obtain ⟨m, hm, hnm, hmentions⟩ := ht.exists_holder hn (by rw [hk]; exact nofun)
  rw [hk] at hmentions
  cases place with
  | statement | expression =>
    simp [features, hk, placedFeatures, functionFeatures, featureIf] at hfeatures
  | method =>
    -- the walk has no arm for the function of a method, but its class is in an export
    have hmethod : t.IsWithinExport m :=
      ht.method_within_export hlevel hm (Kind.method_of_mentions hmentions)
    exact hmethod.of_mem_nodes (mem_nodes.2 (.inr ⟨n, hnm, self_mem_nodes n⟩))
  | «export» =>
    exact isWithinExport_of_mem_parts hm hnm
      (Kind.export_of_mentions (.inr ⟨_, _, rfl⟩) hmentions)

theorem IsA.classOrGenerator_within_export (hn : n ∈ t.nodes)
    (h : n.kind.isClassOrGenerator = true) : t.IsWithinExport n := by
  cases hk : n.kind with
  | classDefinition place => exact ht.class_within_export hlevel hn hk
  | function place async generator =>
    obtain rfl : generator = true := by rwa [hk] at h
    exact ht.generator_within_export hlevel hn hk
  | _ =>
    rw [hk] at h
    cases h

end

end Tree

end PluginAudit.Script

namespace PluginAudit.Plugin

open Script

/-- The tree of an accepted text exists, and its classes and generators are all within exports. -/
def ClassesExported (full : List Char) : Prop :=
  ∃ tree, read false full = .ok tree ∧
    (∀ n ∈ tree.nodes, n.kind.isClassOrGenerator = true → tree.IsWithinExport n) ∧
    (tree.NoClassGeneratorModule ↔ tree.NoModuleDeclaration)

theorem Passes.classesExported {full : List Char} (h : Passes full .es5) :
    ClassesExported full := by
  obtain ⟨tree, hread, hlevel⟩ := h
  have hprogram : tree.IsA (· == .program) := isProgram_of_read hread
  have hwithin : ∀ n ∈ tree.nodes, n.kind.isClassOrGenerator = true → tree.IsWithinExport n :=
    fun n hn => hprogram.classOrGenerator_within_export hlevel hn
  refine ⟨tree, hread, hwithin, fun h n hn => (h n hn).2, ?_⟩
  intro h n hn
  refine ⟨?_, h n hn⟩
  by_contra hnewer
  rw [Bool.not_eq_false] at hnewer
  obtain ⟨m, hm, hexport, _⟩ := hwithin n hn hnewer
  have hmodule := Kind.isModuleDeclaration_of_isExport hexport
  rw [h m hm] at hmodule
  cases hmodule

/-- However a text is accepted at the oldest edition, its classes and generators are those within
exports, so it has no class, generator, import or export exactly if it has no import or export. -/
theorem classes_exported_at_es5 {text : List Char} :
    (∀ r, accept text .es5 = .ok r → ClassesExported (r.full text)) ∧
    (∀ r, acceptWrapped text .es5 = .ok r → ClassesExported (wrap text)) := by
  constructor
  · intro r h
    exact (passes_of_accept h).classesExported
  · intro r h
    exact (acceptWrapped_eq_ok.1 h).2.classesExported

theorem generator_exported_in_wrapper :
    acceptWrapped "export class A \x7b *g() \x7b\x7d \x7d".toList .es5 = .ok ⟨.es5, true⟩ ∧
      ClassesExported (wrap "export class A \x7b *g() \x7b\x7d \x7d".toList) := by
  obtain ⟨tree, hread, hcheck⟩ := exists_read false
    (wrap "export class A \x7b *g() \x7b\x7d \x7d".toList)
    (fun t => Finding.firstAbove? .es5 t.findings = none) (by decide +kernel)
  have haccept := acceptWrapped_eq_ok.2 ⟨rfl, tree, hread, of_decide_eq_true hcheck⟩
  exact ⟨haccept, classes_exported_at_es5.2 _ haccept⟩

/-- An exported class is not looked at. -/
theorem exported_class_in_es5 :
    ∃ tree, accept "export class A \x7b\x7d".toList .es5 = .ok ⟨.es5, false⟩ ∧
      read false "export class A \x7b\x7d".toList = .ok tree ∧ ¬ tree.NoClassGeneratorModule := by
  obtain ⟨tree, hread, hcheck⟩ := exists_read false "export class A \x7b\x7d".toList
    (fun t => Finding.firstAbove? .es5 t.findings = none ∧ ¬ t.NoClassGeneratorModule)
    (by decide +kernel)
  obtain ⟨hlevel, hclass⟩ := of_decide_eq_true hcheck
  exact ⟨tree, accept_eq_ok.2 (.inl ⟨rfl, tree, hread, hlevel⟩), hread, hclass⟩

end PluginAudit.Plugin
