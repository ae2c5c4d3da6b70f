import PluginAudit.Proofs.Feature.Literals
import PluginAudit.Proofs.Plugin.Acceptance

/-!
# Numeric separators in accepted texts

Separators in numbers came with ES2021. They are looked for in numbers that are no bigints. So the
one older edition with bigints accepts separators in them, and every older edition with classes
accepts them in bigints that stand as types.
-/

namespace PluginAudit.Script

/-- The text of a number of any form, where it is an operand, a key or a type. -/
def Kind.numeral? : Kind → Option (List Char)
  | .number raw | .bigint raw | .bigintType raw => some raw
  | _ => none

def Kind.bigint? : Kind → Option (List Char)
  | .bigint raw | .bigintType raw => some raw
  | _ => none

theorem Kind.numeral?_eq_some {k : Kind} {raw : List Char} :
    k.numeral? = some raw ↔ k = .number raw ∨ k.bigint? = some raw := by
  cases k <;> simp [numeral?, bigint?]

namespace Tree

variable {t n : Tree} {edition : Edition} {raw : List Char}

def NoSeparator (t : Tree) : Prop :=
  ∀ n ∈ t.nodes, ∀ raw ∈ n.kind.numeral?, '_' ∉ raw

def NoBigintSeparator (t : Tree) : Prop :=
  ∀ n ∈ t.nodes, ∀ raw ∈ n.kind.bigint?, '_' ∉ raw

instance (t : Tree) : Decidable t.NoSeparator :=
  inferInstanceAs (Decidable (∀ n ∈ t.nodes, ∀ raw ∈ n.kind.numeral?, '_' ∉ raw))

instance (t : Tree) : Decidable t.NoBigintSeparator :=
  inferInstanceAs (Decidable (∀ n ∈ t.nodes, ∀ raw ∈ n.kind.bigint?, '_' ∉ raw))

theorem numericSeparator_mem_features :
    .numericSeparator ∈ n.features ↔ ∃ raw, n.kind = .number raw ∧ '_' ∈ raw := by
  constructor
  · intro h
    rcases literal_of_isSpelling rfl h with ⟨raw, hk⟩ | ⟨raw, hk⟩
    · simp [features, hk, mem_featureIf] at h
    · refine ⟨raw, hk, ?_⟩
      simpa [features, hk, mem_featureIf] using h
  · rintro ⟨raw, hk, hraw⟩
    simp [features, hk, mem_featureIf, hraw]

theorem exists_numericSeparator_iff :
    (∃ x ∈ t.findings, x.feature = .numericSeparator) ↔
      ∃ n ∈ t.nodes, ∃ raw, n.kind = .number raw ∧ '_' ∈ raw := by
  constructor
  · rintro ⟨x, hx, hfeature⟩
    obtain ⟨n, hn, hf, _⟩ := mem_findings.1 hx
    exact ⟨n, hn, numericSeparator_mem_features.1 (hfeature ▸ hf)⟩
  · rintro ⟨n, hn, hraw⟩
    have hf := numericSeparator_mem_features.2 hraw
    exact ⟨⟨.numericSeparator, n.start⟩, mem_findings.2 ⟨n, hn, hf, rfl⟩, rfl⟩

theorem no_separator_of_number (hedition : edition < .es2021)
    (hlevel : Finding.firstAbove? edition t.findings = none) (hn : n ∈ t.nodes)
    (hk : n.kind = .number raw) : '_' ∉ raw := by
  intro hraw
  have hfound := numericSeparator_mem_features.2 ⟨raw, hk, hraw⟩
  exact Finding.not_above_of_feature hlevel hn hfound hedition

/-- Before bigints came, only types may be bigints. -/
theorem ne_bigint (hedition : edition < .es2020)
    (hlevel : Finding.firstAbove? edition t.findings = none) (hn : n ∈ t.nodes) :
    n.kind ≠ .bigint raw := by
  intro hk
  have hfound : .bigintLiteral ∈ n.features := by simp [features, hk]
  exact Finding.not_above_of_feature hlevel hn hfound hedition

theorem noSeparator_iff (hedition : edition < .es2021)
    (hlevel : Finding.firstAbove? edition t.findings = none) :
    t.NoSeparator ↔ t.NoBigintSeparator := by
  constructor
  · exact fun h n hn raw hraw => h n hn raw (Kind.numeral?_eq_some.2 (.inr hraw))
  · intro h n hn raw hraw
    rcases Kind.numeral?_eq_some.1 hraw with hk | hbigint
    · exact no_separator_of_number hedition hlevel hn hk
    · exact h n hn raw hbigint

end Tree

end PluginAudit.Script

namespace PluginAudit.Plugin

open Script

/-- The tree of an accepted text exists, no number in it but a bigint has a separator, and there are
bigints only from their edition on or as types. -/
def SeparatorsUnseen (full : List Char) (edition : Edition) : Prop :=
  ∃ tree, read false full = .ok tree ∧
    (∀ n ∈ tree.nodes, ∀ raw, n.kind = .number raw → '_' ∉ raw) ∧
    (edition < .es2020 → ∀ n ∈ tree.nodes, ∀ raw, n.kind ≠ .bigint raw) ∧
    (tree.NoSeparator ↔ tree.NoBigintSeparator)

theorem Passes.separatorsUnseen {full : List Char} {edition : Edition}
    (hedition : edition < .es2021) (h : Passes full edition) : SeparatorsUnseen full edition := by
  obtain ⟨tree, hread, hlevel⟩ := h
  exact ⟨tree, hread, fun _ hn _ hk => Tree.no_separator_of_number hedition hlevel hn hk,
    fun hbigints _ hn _ => Tree.ne_bigint hbigints hlevel hn,
    Tree.noSeparator_iff hedition hlevel⟩

/-- A script is said to use separators exactly for the numbers, bigints aside, that have one. So
however a text is accepted below ES2021, it has no separator in a number if and only if it has none
in a bigint. -/
theorem separators_below_es2021 {text : List Char} {edition : Edition}
    (hedition : edition < .es2021) :
    (∀ tree, read false text = .ok tree →
      ((∃ x ∈ tree.findings, x.feature = .numericSeparator) ↔
        ∃ n ∈ tree.nodes, ∃ raw, n.kind = .number raw ∧ '_' ∈ raw)) ∧
    (∀ r, accept text edition = .ok r → SeparatorsUnseen (r.full text) edition) ∧
    (∀ r, acceptWrapped text edition = .ok r → SeparatorsUnseen (wrap text) edition) :=
  ⟨fun _ _ => Tree.exists_numericSeparator_iff,
    fun _ h => (passes_of_accept h).separatorsUnseen hedition,
    fun _ h => (acceptWrapped_eq_ok.1 h).2.separatorsUnseen hedition⟩

theorem separators_below_es2021_of_keys :
    Edition.es2020 < .es2021 ∧
      accept "a = \x7b 0x1F: 1e3 + 10n \x7d".toList .es2020 = .ok ⟨.es2020, false⟩ ∧
      SeparatorsUnseen "a = \x7b 0x1F: 1e3 + 10n \x7d".toList .es2020 := by
  obtain ⟨tree, hread, hcheck⟩ := exists_read false "a = \x7b 0x1F: 1e3 + 10n \x7d".toList
    (fun t => Finding.firstAbove? .es2020 t.findings = none) (by decide +kernel)
  have haccept := accept_eq_ok.2 (.inl ⟨rfl, tree, hread, of_decide_eq_true hcheck⟩)
  have hedition : Edition.es2020 < .es2021 := by decide
  have hunseen := (separators_below_es2021 hedition).2.1 _ haccept
  rw [Accepted.full, if_neg Bool.false_ne_true] at hunseen
  exact ⟨hedition, haccept, hunseen⟩

/-- Bigints with separators are accepted in ES2020, and as types before. -/
theorem bigint_separator_accepted :
    (∃ tree, accept "a = 1_0n".toList .es2020 = .ok ⟨.es2020, false⟩ ∧
      read false "a = 1_0n".toList = .ok tree ∧ ¬ tree.NoSeparator) ∧
    ∃ tree, accept "class A implements B<1_0n> \x7b\x7d".toList .es2015 = .ok ⟨.es2015, false⟩ ∧
      read false "class A implements B<1_0n> \x7b\x7d".toList = .ok tree ∧ ¬ tree.NoSeparator := by
  constructor
  · obtain ⟨tree, hread, hcheck⟩ := exists_read false "a = 1_0n".toList
      (fun t => Finding.firstAbove? .es2020 t.findings = none ∧ ¬ t.NoSeparator) (by decide +kernel)
    obtain ⟨hlevel, hseparator⟩ := of_decide_eq_true hcheck
    exact ⟨tree, accept_eq_ok.2 (.inl ⟨rfl, tree, hread, hlevel⟩), hread, hseparator⟩
  · obtain ⟨tree, hread, hcheck⟩ := exists_read false
      "class A implements B<1_0n> \x7b\x7d".toList
      (fun t => Finding.firstAbove? .es2015 t.findings = none ∧ ¬ t.NoSeparator) (by decide +kernel)
    obtain ⟨hlevel, hseparator⟩ := of_decide_eq_true hcheck
    exact ⟨tree, accept_eq_ok.2 (.inl ⟨rfl, tree, hread, hlevel⟩), hread, hseparator⟩

end PluginAudit.Plugin
