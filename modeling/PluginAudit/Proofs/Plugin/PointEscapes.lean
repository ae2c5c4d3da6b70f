import PluginAudit.Proofs.Feature.Literals
import PluginAudit.Proofs.Plugin.Acceptance

/-!
# Code point escapes in accepted texts

The oldest edition has no code point escapes. They are looked for in string literals, where an
escaped backslash may spell one, and never in names.
-/

namespace PluginAudit.Script

def WritesPoint (raw : List Char) : Prop := Stands (!·.escaped) "\\u\x7b".toList raw

/-- A backslash that is escaped has what follows it in an escape as plain text. -/
def SpellsPoint (raw : List Char) : Prop := Stands (·.escaped) "\\u\x7b".toList raw

instance (raw : List Char) : Decidable (WritesPoint raw) :=
  inferInstanceAs (Decidable (Stands _ _ _))

instance (raw : List Char) : Decidable (SpellsPoint raw) :=
  inferInstanceAs (Decidable (Stands _ _ _))

theorem holds_point_iff {raw : List Char} :
    holds "\\u\x7b".toList raw = true ↔ WritesPoint raw ∨ SpellsPoint raw :=
  (holds_iff_stands (·.escaped)).trans or_comm

/-- The text of a leaf that may be written with escapes. -/
def Kind.escapable? : Kind → Option (List Char)
  | .string raw | .name raw | .privateName raw => some raw
  | _ => none

theorem Kind.eq_of_escapable? {k : Kind} {raw : List Char} (h : k.escapable? = some raw) :
    k = .string raw ∨ k = .name raw ∨ k = .privateName raw := by
  cases k with
  | string raw' | name raw' | privateName raw' =>
    obtain rfl := Option.some.inj h
    simp only [true_or, or_true]
  | _ => cases h

namespace Tree

variable {t n : Tree} {raw : List Char}

def NoPointEscape (t : Tree) : Prop :=
  ∀ n ∈ t.nodes, ∀ raw ∈ n.kind.escapable?, ¬ WritesPoint raw

instance (t : Tree) : Decidable t.NoPointEscape :=
  inferInstanceAs (Decidable (∀ n ∈ t.nodes, ∀ raw ∈ n.kind.escapable?, ¬ WritesPoint raw))

def NoNamePointEscape (t : Tree) : Prop :=
  ∀ n ∈ t.nodes, ∀ raw, n.kind = .name raw → ¬ WritesPoint raw

/-- Only string literals are said to use code point escapes. -/
theorem isString_of_codePointEscape (h : .codePointEscape ∈ n.features) :
    ∃ raw, n.kind = .string raw := by
  rcases literal_of_isSpelling rfl h with hstring | ⟨raw, hk⟩
  · exact hstring
  · simp [features, hk, mem_featureIf] at h

theorem codePointEscape_mem_features :
    .codePointEscape ∈ n.features ↔
      ∃ raw, n.kind = .string raw ∧ (WritesPoint raw ∨ SpellsPoint raw) := by
  constructor
  · intro h
    obtain ⟨raw, hk⟩ := isString_of_codePointEscape h
    rw [features, hk] at h
    exact ⟨raw, hk, holds_point_iff.1 (mem_featureIf.1 h).1⟩
  · rintro ⟨raw, hk, h⟩
    rw [features, hk]
    exact mem_featureIf.2 ⟨holds_point_iff.2 h, rfl⟩

theorem exists_codePointEscape_iff :
    (∃ x ∈ t.findings, x.feature = .codePointEscape) ↔
      ∃ n ∈ t.nodes, ∃ raw, n.kind = .string raw ∧ (WritesPoint raw ∨ SpellsPoint raw) := by
  constructor
  · rintro ⟨x, hx, hfeature⟩
    obtain ⟨n, hn, hf, _⟩ := mem_findings.1 hx
    exact ⟨n, hn, codePointEscape_mem_features.1 (hfeature ▸ hf)⟩
  · rintro ⟨n, hn, hraw⟩
    have hf := codePointEscape_mem_features.2 hraw
    exact ⟨⟨.codePointEscape, n.start⟩, mem_findings.2 ⟨n, hn, hf, rfl⟩, rfl⟩

theorem no_point_of_string (hlevel : Finding.firstAbove? .es5 t.findings = none)
    (hn : n ∈ t.nodes) (hk : n.kind = .string raw) : ¬ WritesPoint raw ∧ ¬ SpellsPoint raw := by
  rw [← not_or]
  intro hraw
  have hfound := codePointEscape_mem_features.2 ⟨raw, hk, hraw⟩
  rw [Finding.features_eq_nil_of_es5 hlevel hn] at hfound
  cases hfound

theorem noPointEscape_iff (hlevel : Finding.firstAbove? .es5 t.findings = none) :
    t.NoPointEscape ↔ t.NoNamePointEscape := by
  constructor
  · exact fun h n hn raw hk => h n hn raw (by rw [hk]; rfl)
  · intro h n hn raw hraw
    rcases Kind.eq_of_escapable? hraw with hk | hk | hk
    · exact (no_point_of_string hlevel hn hk).1
    · exact h n hn raw hk
    · -- the oldest edition has no private names
      have hfeatures := Finding.features_eq_nil_of_es5 hlevel hn
      rw [features, hk] at hfeatures
      cases hfeatures

end Tree

end PluginAudit.Script

namespace PluginAudit.Plugin

open Script

/-- The tree of an accepted text exists, no string in it writes or spells a code point escape, and
as to all its leaves names alone tell. -/
def PointEscapesUnseen (full : List Char) : Prop :=
  ∃ tree, read false full = .ok tree ∧
    (∀ n ∈ tree.nodes, ∀ raw, n.kind = .string raw → ¬ WritesPoint raw ∧ ¬ SpellsPoint raw) ∧
    (tree.NoPointEscape ↔ tree.NoNamePointEscape)

theorem Passes.pointEscapesUnseen {full : List Char} (h : Passes full .es5) :
    PointEscapesUnseen full := by
  obtain ⟨tree, hread, hlevel⟩ := h
  exact ⟨tree, hread, fun _ hn _ hk => Tree.no_point_of_string hlevel hn hk,
    Tree.noPointEscape_iff hlevel⟩

/-- A script is said to use code point escapes exactly for the strings that write or spell one. So
however a text is accepted at the oldest edition, its strings have none, and its names may. -/
theorem point_escapes_at_es5 {text : List Char} :
    (∀ tree, read false text = .ok tree →
      ((∃ x ∈ tree.findings, x.feature = .codePointEscape) ↔
        ∃ n ∈ tree.nodes, ∃ raw, n.kind = .string raw ∧ (WritesPoint raw ∨ SpellsPoint raw))) ∧
    (∀ r, accept text .es5 = .ok r → PointEscapesUnseen (r.full text)) ∧
    (∀ r, acceptWrapped text .es5 = .ok r → PointEscapesUnseen (wrap text)) :=
  ⟨fun _ _ => Tree.exists_codePointEscape_iff, fun _ h => (passes_of_accept h).pointEscapesUnseen,
    fun _ h => (acceptWrapped_eq_ok.1 h).2.pointEscapesUnseen⟩

theorem point_escapes_of_short_escape :
    accept "a = \"\\u0061\"".toList .es5 = .ok ⟨.es5, false⟩ ∧
      PointEscapesUnseen "a = \"\\u0061\"".toList := by
  obtain ⟨tree, hread, hcheck⟩ := exists_read false "a = \"\\u0061\"".toList
    (fun t => Finding.firstAbove? .es5 t.findings = none) (by decide +kernel)
  have haccept := accept_eq_ok.2 (.inl ⟨rfl, tree, hread, of_decide_eq_true hcheck⟩)
  have hunseen := point_escapes_at_es5.2.1 _ haccept
  rw [Accepted.full, if_neg Bool.false_ne_true] at hunseen
  exact ⟨haccept, hunseen⟩

/-- A name is not looked at, and two backslashes are not told from one. -/
theorem point_escapes_misjudged :
    (∃ tree, accept "var \\u\x7b61\x7d".toList .es5 = .ok ⟨.es5, false⟩ ∧
      read false "var \\u\x7b61\x7d".toList = .ok tree ∧ ¬ tree.NoPointEscape) ∧
    ∃ tree, read false "a = \"\\\\u\x7b61\x7d\"".toList = .ok tree ∧ tree.NoPointEscape ∧
      Finding.firstAbove? .es5 tree.findings = some ⟨.codePointEscape, 4⟩ := by
  constructor
  · obtain ⟨tree, hread, hcheck⟩ := exists_read false "var \\u\x7b61\x7d".toList
      (fun t => Finding.firstAbove? .es5 t.findings = none ∧ ¬ t.NoPointEscape) (by decide +kernel)
    obtain ⟨hlevel, hescape⟩ := of_decide_eq_true hcheck
    exact ⟨tree, accept_eq_ok.2 (.inl ⟨rfl, tree, hread, hlevel⟩), hread, hescape⟩
  · obtain ⟨tree, hread, hcheck⟩ := exists_read false "a = \"\\\\u\x7b61\x7d\"".toList
      (fun t => t.NoPointEscape ∧
        Finding.firstAbove? .es5 t.findings = some ⟨.codePointEscape, 4⟩) (by decide +kernel)
    obtain ⟨hescape, hreport⟩ := of_decide_eq_true hcheck
    exact ⟨tree, hread, hescape, hreport⟩

end PluginAudit.Plugin
