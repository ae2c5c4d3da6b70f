import PluginAudit.Proofs.Tree.Content

/-!
# Nodes of a tree

How the nodes of a tree stand to each other, and what the grammar of kinds says of a node and
a part of it.
-/

namespace PluginAudit.Script

/-! ## Where some parts stand -/

namespace Kind

variable {k : Kind} {async generator : Bool}

theorem taggedTemplate_of_mentions (h : k.content.mentions (.template true) = true) :
    k = .taggedTemplate := by
  cases k with
  | taggedTemplate => rfl
  | catchClause bound => cases bound <;> cases h
  | property form computed shorthand | targetProperty computed shorthand =>
    cases shorthand <;> cases h
  | _ => cases h

theorem method_of_mentions (h : k.content.mentions (.function .method async generator) = true) :
    k = .method := by
  cases k with
  | method => rfl
  | catchClause bound => cases bound <;> cases h
  | property form computed shorthand | targetProperty computed shorthand =>
    cases shorthand <;> cases h
  | _ => cases h

/-- Only export declarations hold what is declared to be exported. -/
theorem export_of_mentions {j : Kind}
    (hj : j = .classDefinition .export ∨ ∃ async generator, j = .function .export async generator)
    (h : k.content.mentions j = true) : k = .exportNamed ∨ k = .exportDefault := by
  cases k with
  | exportNamed => exact .inl rfl
  | exportDefault => exact .inr rfl
  | catchClause bound => rcases hj with rfl | ⟨_, _, rfl⟩ <;> cases bound <;> cases h
  | property form computed shorthand | targetProperty computed shorthand =>
    rcases hj with rfl | ⟨_, _, rfl⟩ <;> cases shorthand <;> cases h
  | _ => rcases hj with rfl | ⟨_, _, rfl⟩ <;> cases h

theorem classDefinition_of_mentions (h : k.content.mentions .method = true) :
    ∃ place, k = .classDefinition place := by
  cases k with
  | classDefinition place => exact ⟨place, rfl⟩
  | catchClause bound => cases bound <;> cases h
  | property form computed shorthand | targetProperty computed shorthand =>
    cases shorthand <;> cases h
  | _ => cases h

theorem parametersRest_of_mentions {place : DotsPlace}
    (h : Kind.parameters.content.mentions (.rest place) = true) : place = .parameters := by
  cases place <;> first | rfl | cases h

theorem not_mentions_classDefinition_method :
    k.content.mentions (.classDefinition .method) = false := by
  cases k with
  | catchClause bound => cases bound <;> rfl
  | property form computed shorthand | targetProperty computed shorthand =>
    cases shorthand <;> rfl
  | _ => rfl

end Kind

namespace Tree

theorem induct {P : Tree → Prop} (step : ∀ t : Tree, (∀ p ∈ t.parts, P p) → P t) (t : Tree) :
    P t := by
  refine Tree.rec (motive_1 := P) (motive_2 := fun ps => ∀ p ∈ ps, P p) ?_ nofun ?_ t
  · exact fun k s e ps ih => step (node k s e ps) ih
  · exact fun p ps hp hps => List.forall_mem_cons.2 ⟨hp, hps⟩

theorem mem_nodes {n t : Tree} : n ∈ t.nodes ↔ n = t ∨ ∃ p ∈ t.parts, n ∈ p.nodes := by
  cases t
  rw [nodes, nodesOfAll_eq_flatMap, List.mem_cons, List.mem_flatMap, parts_node]

theorem mem_nodes_trans {n m t : Tree} (hn : n ∈ m.nodes) (hm : m ∈ t.nodes) : n ∈ t.nodes := by
  induction t using induct with
  | step t ih =>
    rcases mem_nodes.1 hm with rfl | ⟨p, hp, hm⟩
    · exact hn
    · exact mem_nodes.2 (.inr ⟨p, hp, ih p hp hm⟩)

theorem mem_nodes_of_mem_parts {p m t : Tree} (hp : p ∈ m.parts) (hm : m ∈ t.nodes) :
    p ∈ t.nodes :=
  mem_nodes_trans (mem_nodes.2 (.inr ⟨p, hp, self_mem_nodes p⟩)) hm

theorem eq_or_mem_parts {n t : Tree} (hn : n ∈ t.nodes) : n = t ∨ ∃ m ∈ t.nodes, n ∈ m.parts := by
  induction t using induct with
  | step t ih =>
    rcases mem_nodes.1 hn with rfl | ⟨p, hp, hn⟩
    · exact .inl rfl
    · rcases ih p hp hn with rfl | ⟨m, hm, hnm⟩
      · exact .inr ⟨t, self_mem_nodes t, hp⟩
      · exact .inr ⟨m, mem_nodes.2 (.inr ⟨p, hp, hm⟩), hnm⟩

/-- From the root down, what goes from each node to its parts holds of all nodes. -/
theorem forall_nodes {P : Tree → Prop} {t : Tree} (root : P t)
    (step : ∀ m ∈ t.nodes, P m → ∀ p ∈ m.parts, P p) : ∀ n ∈ t.nodes, P n := by
  induction t using induct with
  | step t ih =>
    intro n hn
    rcases mem_nodes.1 hn with rfl | ⟨p, hp, hn⟩
    · exact root
    · have hpart : P p := step t (self_mem_nodes t) root p hp
      exact ih p hp hpart (fun m hm => step m (mem_nodes.2 (.inr ⟨p, hp, hm⟩))) n hn

namespace WellFormed

variable {t : Tree}

theorem of_mem_nodes (h : t.WellFormed) {n : Tree} (hn : n ∈ t.nodes) : n.WellFormed :=
  fun m hm => h m (mem_nodes_trans hm hn)

theorem of_mem_parts (h : t.WellFormed) {p : Tree} (hp : p ∈ t.parts) : p.WellFormed :=
  h.fits.wellFormed p hp

theorem mentions (h : t.WellFormed) {p : Tree} (hp : p ∈ t.parts) :
    t.kind.content.mentions p.kind = true :=
  Content.mentions_of_allows h.fits.allows (List.mem_map_of_mem hp)

end WellFormed

/-! ## Nodes with what is around them -/

/-- A node at its place: the kinds of the nodes around it, innermost first. -/
structure Occurrence where
  around : List Kind
  node : Tree

mutual

def occurrences (around : List Kind) : Tree → List Occurrence
  | .node k s e ps => ⟨around, .node k s e ps⟩ :: occurrencesOfAll (k :: around) ps

def occurrencesOfAll (around : List Kind) : List Tree → List Occurrence
  | [] => []
  | t :: ts => occurrences around t ++ occurrencesOfAll around ts

end

theorem occurrencesOfAll_eq_flatMap (around : List Kind) (ts : List Tree) :
    occurrencesOfAll around ts = ts.flatMap (occurrences around) := by
  induction ts with
  | nil => simp [occurrencesOfAll]
  | cons t ts ih => simp [occurrencesOfAll, ih]

theorem occurrences_eq (around : List Kind) (t : Tree) :
    t.occurrences around = ⟨around, t⟩ :: t.parts.flatMap (occurrences (t.kind :: around)) := by
  cases t
  rw [occurrences, occurrencesOfAll_eq_flatMap, kind_node, parts_node]

theorem mem_around_of_mem {around : List Kind} {t : Tree} {o : Occurrence}
    (ho : o ∈ t.occurrences around) {k : Kind} (hk : k ∈ around) : k ∈ o.around := by
  induction t using induct generalizing around with
  | step t ih =>
    rw [occurrences_eq] at ho
    rcases List.mem_cons.1 ho with rfl | ho
    · exact hk
    · obtain ⟨p, hp, ho⟩ := List.mem_flatMap.1 ho
      exact ih p hp ho (List.mem_cons_of_mem _ hk)

end Tree

end PluginAudit.Script
