import PluginAudit.Proofs.Grammar.Program
import PluginAudit.Proofs.Tree.Nodes
import PluginAudit.Script.Feature

/-!
# The uses that a level rules out

`Uses` says by the shape of a node and its parts what the node uses. The findings of a script
cover every use but the literals within types, which nothing looks at.
-/

namespace PluginAudit.Script

/-- A node that uses a feature. Functions and classes by their flags, destructuring and what
depends on the spelling of a literal are not among these. -/
inductive Uses (n : Tree) : Feature → Prop
  | letDeclaration (h : n.kind = .declaration .let) : Uses n .letDeclaration
  | constDeclaration (h : n.kind = .declaration .const) : Uses n .constDeclaration
  | usingDeclaration (h : n.kind = .declaration .using ∨ n.kind = .declaration .awaitUsing) :
      Uses n .usingDeclaration
  | arrow {async : Bool} (h : n.kind = .arrow async) : Uses n .arrowFunction
  | template {tagged : Bool} (h : n.kind = .template tagged) : Uses n .templateLiteral
  | templateType (h : n.kind = .templateType) : Uses n .templateLiteral
  | taggedTemplate (h : n.kind = .taggedTemplate) : Uses n .taggedTemplate
  | yield (h : n.kind = .yield) : Uses n .yield
  | await (h : n.kind = .await) : Uses n .await
  | superWord (h : n.kind = .superWord) : Uses n .superWord
  | metaProperty (h : n.kind = .metaProperty) : Uses n .metaProperty
  | power (h : n.kind = .binary "**" ∨ n.kind = .assignment "**=") : Uses n .exponentiation
  | nullish (h : n.kind = .logical "??") : Uses n .nullishCoalescing
  | logicalAssignment {sign : String} (h : n.kind = .assignment sign)
      (hsign : sign ∈ ["&&=", "||=", "??="]) : Uses n .logicalAssignment
  | optionalChain (h : n.kind = .chain ∨ n.kind = .call true) : Uses n .optionalChaining
  | importCall (h : n.kind = .importCall) : Uses n .dynamicImport
  | bigint {raw : List Char} (h : n.kind = .bigint raw) : Uses n .bigintLiteral
  | bigintType {raw : List Char} (h : n.kind = .bigintType raw) : Uses n .bigintLiteral
  | arraySpread {comma : Option Nat} {place : DotsPlace} {p : Tree} (h : n.kind = .array comma)
      (hp : p ∈ n.parts) (hspread : p.kind = .spread place) : Uses n .spreadElement
  | argumentSpread {place : DotsPlace} {p : Tree}
      (h : n.kind = .newCall ∨ ∃ optional, n.kind = .call optional)
      (hp : p ∈ n.parts) (hspread : p.kind = .spread place) : Uses n .spreadElement
  | objectSpread {place : DotsPlace} {p : Tree} (h : n.kind = .object)
      (hp : p ∈ n.parts) (hspread : p.kind = .spread place) : Uses n .objectSpread
  | computedProperty {form : PropertyForm} {shorthand : Bool} {p : Tree} (h : n.kind = .object)
      (hp : p ∈ n.parts) (hproperty : p.kind = .property form true shorthand) :
      Uses n .computedProperty
  | shorthandProperty {form : PropertyForm} {computed : Bool} {p : Tree} (h : n.kind = .object)
      (hp : p ∈ n.parts) (hproperty : p.kind = .property form computed true) :
      Uses n .shorthandProperty
  | methodProperty {computed shorthand : Bool} {p : Tree} (h : n.kind = .object)
      (hp : p ∈ n.parts) (hproperty : p.kind = .property .method computed shorthand) :
      Uses n .methodDefinition
  | forOf {isAwait : Bool} (h : n.kind = .forOf isAwait) : Uses n .forOf
  | forAwait (h : n.kind = .forOf true) : Uses n .forAwait
  | unboundCatch {bound : Bool} (h : n.kind = .catchClause bound)
      (hunbound : ∀ p ∈ n.parts, p.kind.isPattern = false) : Uses n .optionalCatch
  | defaultParameter {p : Tree} (h : n.kind = .parameter) (hp : p ∈ n.parts)
      (hdefault : p.kind = .defaulted) : Uses n .defaultParameter
  | restParameter {place : DotsPlace} {p : Tree} (h : n.kind = .parameters) (hp : p ∈ n.parts)
      (hrest : p.kind = .rest place) : Uses n .restParameter
  | objectRest {place : DotsPlace} {p : Tree} (h : n.kind = .objectPattern ∨ n.kind = .objectTarget)
      (hp : p ∈ n.parts) (hrest : p.kind = .rest place) : Uses n .objectRest
  | classField (h : n.kind = .field) : Uses n .classField
  | staticBlock (h : n.kind = .staticBlock) : Uses n .staticBlock
  | privateName {raw : List Char} (h : n.kind = .privateName raw) : Uses n .privateName
  | hashbang (h : n.kind = .hashbang) : Uses n .hashbang

def Kind.typeLiteral? : Kind → Option Feature
  | .bigintType _ => some .bigintLiteral
  | .templateType => some .templateLiteral
  | _ => none

def Tree.TypeLiteralsWithin (t : Tree) (level : Edition) : Prop :=
  ∀ n ∈ t.nodes, ∀ f ∈ n.kind.typeLiteral?, f.edition ≤ level

instance (t : Tree) (level : Edition) : Decidable (t.TypeLiteralsWithin level) :=
  inferInstanceAs (Decidable (∀ n ∈ t.nodes, ∀ f ∈ n.kind.typeLiteral?, f.edition ≤ level))

/-! ## Where parts stand -/

namespace Kind

theorem spreads_of_mentions {k : Kind} {place : DotsPlace}
    (hk : (∃ comma, k = .array comma) ∨ k = .newCall ∨ ∃ optional, k = .call optional)
    (h : k.content.mentions (.spread place) = true) : spreadFeatures place = [.spreadElement] := by
  rcases hk with ⟨comma, rfl⟩ | rfl | ⟨optional, rfl⟩ <;> cases place <;> first | rfl | cases h

theorem objectSpread_of_mentions {place : DotsPlace}
    (h : Kind.object.content.mentions (.spread place) = true) : place = .objectProperty := by
  cases place <;> first | rfl | cases h

theorem objectRests_of_mentions {k : Kind} {place : DotsPlace}
    (hk : k = .objectPattern ∨ k = .objectTarget)
    (h : k.content.mentions (.rest place) = true) : restFeatures place = [.objectRest] := by
  rcases hk with rfl | rfl <;> cases place <;> first | rfl | cases h

end Kind

namespace Tree

theorem WellFormed.unbound {n : Tree} {bound : Bool} (hwf : n.WellFormed)
    (hk : n.kind = .catchClause bound) (hunbound : ∀ p ∈ n.parts, p.kind.isPattern = false) :
    bound = false := by
  have hfits := hwf.fits
  rw [hk] at hfits
  cases bound with
  | false => rfl
  | true =>
    obtain ⟨p, qs, hparts, hp, _⟩ := hfits.exists_first
    have hnone := hunbound p (hparts ▸ List.mem_cons_self ..)
    exact absurd hp.kind (Bool.eq_false_iff.1 hnone)

/-- A default is the first part of its parameter; decorators follow. -/
theorem WellFormed.default_first {n p : Tree} (hwf : n.WellFormed) (hk : n.kind = .parameter)
    (hp : p ∈ n.parts) (hdefault : p.kind = .defaulted) :
    bindingFeatures n.parts = [.defaultParameter] := by
  have hfits := hwf.fits
  rw [hk] at hfits
  obtain ⟨qs, hparts, _⟩ := hfits.eq_first hp (by rw [hdefault]; rfl)
  rw [hparts]
  simp only [bindingFeatures, hdefault]

def Covers (t : Tree) (f : Feature) : Prop :=
  ∃ m ∈ t.nodes, ∃ g ∈ m.features, f.edition ≤ g.edition

theorem Covers.of_feature {t n : Tree} {f : Feature} (hn : n ∈ t.nodes) (hf : f ∈ n.features) :
    t.Covers f :=
  ⟨n, hn, f, hf, Nat.le_refl _⟩

end Tree

/-! ## Every use is found -/

open Kind PluginAudit.Script.Tree

section

variable {t n : Tree}

theorem Tree.IsA.covers_template (ht : t.IsA (· == .program)) (hn : n ∈ t.nodes) {tagged : Bool}
    (hk : n.kind = .template tagged) : t.Covers .templateLiteral := by
  cases tagged with
  | false => exact .of_feature hn (by simp [features, hk, featureIf])
  | true =>
    -- the tag is found, at the node around
    rcases eq_or_mem_parts hn with rfl | ⟨m, hm, hnm⟩
    · have hprogram := ht.kind
      rw [hk] at hprogram
      cases hprogram
    · have hmentions := (ht.wellFormed.of_mem_nodes hm).mentions hnm
      rw [hk] at hmentions
      have hmk := taggedTemplate_of_mentions hmentions
      exact ⟨m, hm, .taggedTemplate, by simp [features, hmk], Nat.le_refl _⟩

/-- What a node of a script uses is found at the node, at a part of it or at the node around,
unless the node is a literal that stands as a type. -/
theorem Uses.covered {f : Feature} (h : Uses n f) (ht : t.IsA (· == .program))
    (hn : n ∈ t.nodes) (hliteral : n.kind.typeLiteral? = none) : t.Covers f := by
  have hwf := ht.wellFormed.of_mem_nodes hn
  have hpart : ∀ {p}, p ∈ n.parts → p ∈ t.nodes := fun hp => mem_nodes_of_mem_parts hp hn
  cases h with
  | template hk => exact ht.covers_template hn hk
  | bigintType hk | templateType hk =>
    rw [hk] at hliteral
    cases hliteral
  | logicalAssignment hk hsign =>
    simp only [List.mem_cons, List.not_mem_nil, or_false] at hsign
    refine .of_feature hn ?_
    rcases hsign with rfl | rfl | rfl <;> simp [features, hk, assignmentFeatures, featureIf]
  -- dots are found where they stand, as what their place tells
  | arraySpread hk hp hspread =>
    have hplace := spreads_of_mentions (.inl ⟨_, hk⟩) (hspread ▸ hwf.mentions hp)
    exact .of_feature (hpart hp) (by simp [features, hspread, hplace])
  | argumentSpread hk hp hspread =>
    have hplace := spreads_of_mentions (.inr hk) (hspread ▸ hwf.mentions hp)
    exact .of_feature (hpart hp) (by simp [features, hspread, hplace])
  | objectSpread hk hp hspread =>
    obtain rfl := objectSpread_of_mentions (hk ▸ hspread ▸ hwf.mentions hp)
    exact .of_feature (hpart hp) (by simp [features, hspread, spreadFeatures])
  | computedProperty _ hp hproperty =>
    exact .of_feature (hpart hp) (by simp [features, hproperty, featureIf])
  | shorthandProperty _ hp hproperty =>
    exact .of_feature (hpart hp) (by simp [features, hproperty, featureIf])
  | methodProperty _ hp hproperty =>
    exact .of_feature (hpart hp) (by simp [features, hproperty, featureIf])
  | unboundCatch hk hunbound =>
    obtain rfl := hwf.unbound hk hunbound
    exact .of_feature hn (by simp [features, hk, featureIf])
  | defaultParameter hk hp hdefault =>
    exact .of_feature hn (by simp [features, hk, hwf.default_first hk hp hdefault])
  | restParameter hk hp hrest =>
    obtain rfl := parametersRest_of_mentions (hk ▸ hrest ▸ hwf.mentions hp)
    exact .of_feature (hpart hp) (by simp [features, hrest, restFeatures])
  | objectRest hk hp hrest =>
    have hplace := objectRests_of_mentions hk (hrest ▸ hwf.mentions hp)
    exact .of_feature (hpart hp) (by simp [features, hrest, hplace])
  | usingDeclaration hk | power hk | optionalChain hk =>
    rcases hk with hk | hk <;> refine .of_feature hn ?_ <;>
      simp [features, hk, declarationFeatures, assignmentFeatures, featureIf]
  | _ hk => exact .of_feature hn (by simp [features, hk, declarationFeatures, featureIf])

theorem Uses.eq_typeLiteral {f g : Feature} (h : Uses n f) (hg : n.kind.typeLiteral? = some g) :
    f = g := by
  cases hk : n.kind with
  | bigintType raw =>
    rw [hk] at hg
    cases h with
    | bigintType => exact Option.some.inj hg
    | _ => simp_all
  | templateType =>
    rw [hk] at hg
    cases h with
    | templateType => exact Option.some.inj hg
    | _ => simp_all
  | _ =>
    rw [hk] at hg
    cases hg

theorem uses_typeLiteral {f : Feature} (h : n.kind.typeLiteral? = some f) : Uses n f := by
  cases hk : n.kind with
  | bigintType raw =>
    rw [hk] at h
    obtain rfl : Feature.bigintLiteral = f := Option.some.inj h
    exact .bigintType hk
  | templateType =>
    rw [hk] at h
    obtain rfl : Feature.templateLiteral = f := Option.some.inj h
    exact .templateType hk
  | _ =>
    rw [hk] at h
    cases h

theorem Tree.Covers.edition_le {f : Feature} {level : Edition} (h : t.Covers f)
    (hlevel : Finding.firstAbove? level t.findings = none) : f.edition ≤ level := by
  obtain ⟨m, hm, g, hg, hle⟩ := h
  have hg : ¬ level < g.edition := Finding.not_above_of_feature hlevel hm hg
  exact Nat.le_trans hle (Nat.le_of_not_lt hg)

end

/-- A script that passes a level uses nothing newer, at any depth, exactly if the literals within
its types are not newer. -/
theorem uses_within_level_iff {allowReturn : Bool} {text : List Char} {tree : Tree}
    {level : Edition} (hread : read allowReturn text = .ok tree)
    (hlevel : Finding.firstAbove? level tree.findings = none) :
    (∀ n ∈ tree.nodes, ∀ f, Uses n f → f.edition ≤ level) ↔ tree.TypeLiteralsWithin level := by
  constructor
  · intro h n hn f hf
    exact h n hn f (uses_typeLiteral hf)
  · intro h n hn f hf
    cases hliteral : n.kind.typeLiteral? with
    | none => exact (hf.covered (isProgram_of_read hread) hn hliteral).edition_le hlevel
    | some g =>
      obtain rfl := hf.eq_typeLiteral hliteral
      exact h n hn f hliteral

theorem spreads_within_es2015 :
    ∃ tree, read false "f(...a.map(b => `$\x7bb\x7d`))".toList = .ok tree ∧
      Finding.firstAbove? .es2015 tree.findings = none ∧
      ∀ n ∈ tree.nodes, ∀ f, Uses n f → f.edition ≤ .es2015 := by
  obtain ⟨tree, hread, hcheck⟩ := exists_read false "f(...a.map(b => `$\x7bb\x7d`))".toList
    (fun t => Finding.firstAbove? .es2015 t.findings = none ∧ t.TypeLiteralsWithin .es2015)
    (by decide +kernel)
  obtain ⟨hlevel, hliterals⟩ := of_decide_eq_true hcheck
  exact ⟨tree, hread, hlevel, (uses_within_level_iff hread hlevel).2 hliterals⟩

/-- The number in a type argument passes unseen. -/
theorem bigint_type_above_es2015 :
    ∃ tree, read false "class A implements B<1n> \x7b\x7d".toList = .ok tree ∧
      Finding.firstAbove? .es2015 tree.findings = none ∧
      ∃ n ∈ tree.nodes, Uses n .bigintLiteral ∧ ¬ Feature.bigintLiteral.edition ≤ .es2015 := by
  obtain ⟨tree, hread, hcheck⟩ := exists_read false "class A implements B<1n> \x7b\x7d".toList
    (fun t => Finding.firstAbove? .es2015 t.findings = none ∧
      ∃ n ∈ t.nodes, n.kind = .bigintType ['1', 'n'])
    (by decide +kernel)
  obtain ⟨hlevel, n, hn, hk⟩ := of_decide_eq_true hcheck
  exact ⟨tree, hread, hlevel, n, hn, .bigintType hk, by decide⟩

end PluginAudit.Script
