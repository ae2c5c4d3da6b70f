import Mathlib.Tactic.SplitIfs
import PluginAudit.Proofs.Grammar.Program
import PluginAudit.Script.Feature

/-!
# What literals use

A literal is found to use what some text in it shows. Read from the left, such a text may turn out
to be plain, behind an escaping backslash or in a character class. `Stands` tells the places apart,
and `regex_rejected_iff` says what comes of it for regular expressions.
-/

namespace PluginAudit.Script

/-! ## Where a text stands -/

/-- What is known of a place in a literal by reading up to it: whether the character there is
escaped, and whether a character class is open. -/
structure Standing where
  escaped : Bool
  inClass : Bool
  deriving DecidableEq, Repr

namespace Standing

def first : Standing := ⟨false, false⟩

def after (s : Standing) (c : Char) : Standing :=
  if s.escaped then { s with escaped := false }
  else if c == '\\' then { s with escaped := true }
  else if c == '[' then { s with inClass := true }
  else if c == ']' then { s with inClass := false }
  else s

/-- Outside classes and not escaped. -/
def isPlain (s : Standing) : Bool := !s.escaped && !s.inClass

end Standing

/-- `part` begins at a place in `text` of which `p` holds. -/
def Stands (p : Standing → Bool) (part text : List Char) : Prop :=
  ∃ before after, text = before ++ part ++ after ∧ p (before.foldl .after .first) = true

/-- The same from a place on, computed. -/
def standsFrom (p : Standing → Bool) (part : List Char) : Standing → List Char → Bool
  | s, [] => p s && part.isEmpty
  | s, c :: cs => p s && part.isPrefixOf (c :: cs) || standsFrom p part (s.after c) cs

section

variable {p : Standing → Bool} {part text : List Char} {s : Standing} {c : Char}

theorem standsFrom_iff :
    standsFrom p part s text = true ↔
      ∃ before after, text = before ++ part ++ after ∧ p (before.foldl .after s) = true := by
  induction text generalizing s with
  | nil =>
    rw [standsFrom, Bool.and_eq_true, List.isEmpty_iff]
    constructor
    · rintro ⟨hp, rfl⟩
      exact ⟨[], [], rfl, hp⟩
    · rintro ⟨before, after, hnil, hp⟩
      rw [eq_comm, List.append_eq_nil_iff, List.append_eq_nil_iff] at hnil
      obtain ⟨⟨rfl, rfl⟩, rfl⟩ := hnil
      exact ⟨hp, rfl⟩
  | cons c cs ih =>
    rw [standsFrom, Bool.or_eq_true, Bool.and_eq_true, List.isPrefixOf_iff_prefix, ih]
    constructor
    · rintro (⟨hp, after, hprefix⟩ | ⟨before, after, rfl, hp⟩)
      · exact ⟨[], after, hprefix.symm, hp⟩
      · exact ⟨c :: before, after, rfl, hp⟩
    · rintro ⟨before, after, htext, hp⟩
      cases before with
      | nil => exact .inl ⟨hp, after, htext.symm⟩
      | cons d before =>
        obtain ⟨rfl, rfl⟩ := List.cons.inj htext
        exact .inr ⟨before, after, rfl, hp⟩

instance : Decidable (Stands p part text) :=
  decidable_of_iff (standsFrom p part .first text = true) standsFrom_iff

theorem holds_iff_isInfix : holds part text = true ↔ part <:+: text := by
  induction text with
  | nil => rw [holds, List.isEmpty_iff, List.infix_nil]
  | cons c cs ih =>
    rw [holds, Bool.or_eq_true, List.isPrefixOf_iff_prefix, ih, List.infix_cons_iff]

/-- A search sees a text wherever it stands. -/
theorem holds_iff_stands (p : Standing → Bool) :
    holds part text = true ↔ Stands p part text ∨ Stands (!p ·) part text := by
  rw [holds_iff_isInfix]
  constructor
  · rintro ⟨before, after, rfl⟩
    cases hp : p (before.foldl .after .first) with
    | true => exact .inl ⟨before, after, rfl, hp⟩
    | false => exact .inr ⟨before, after, rfl, by simp only [hp, Bool.not_false]⟩
  · rintro (⟨before, after, rfl, _⟩ | ⟨before, after, rfl, _⟩) <;> exact ⟨before, after, rfl⟩

end

/-! ## Regular expressions -/

section

variable {body flags : List Char} {f g : Feature}

/-- A property escape, negated or not, begins at a place of which `p` holds. -/
def StandsProperty (p : Standing → Bool) (body : List Char) : Prop :=
  Stands p "\\p\x7b".toList body ∨ Stands p "\\P\x7b".toList body

instance (p : Standing → Bool) (body : List Char) : Decidable (StandsProperty p body) :=
  inferInstanceAs (Decidable (_ ∨ _))

/-- What a regular expression uses, read from the left. -/
inductive RegexUses (body flags : List Char) : Feature → Prop
  | v (h : 'v' ∈ flags) : RegexUses body flags .regexV
  | d (h : 'd' ∈ flags) : RegexUses body flags .regexD
  | s (h : 's' ∈ flags) : RegexUses body flags .regexS
  | group (h : Stands (·.isPlain) "(?<".toList body) : RegexUses body flags .regexGroup
  | property (hu : 'u' ∈ flags) (h : StandsProperty (!·.escaped) body) :
    RegexUses body flags .regexProperty
  | u (h : 'u' ∈ flags) : RegexUses body flags .regexUY
  | y (h : 'y' ∈ flags) : RegexUses body flags .regexUY

/-- What a regular expression has as plain text. -/
inductive RegexMentions (body flags : List Char) : Feature → Prop
  | group (h : Stands (!·.isPlain) "(?<".toList body) : RegexMentions body flags .regexGroup
  | property (hu : 'u' ∈ flags) (h : StandsProperty (·.escaped) body) :
    RegexMentions body flags .regexProperty

/-- The tests of a regular expression, each on its own. -/
def regexShows (body flags : List Char) : Feature → Bool
  | .regexV => flags.contains 'v'
  | .regexD => flags.contains 'd'
  | .regexS => flags.contains 's'
  | .regexGroup => holds "(?<".toList body
  | .regexProperty =>
    flags.contains 'u' && (holds "\\p\x7b".toList body || holds "\\P\x7b".toList body)
  | .regexUY => flags.contains 'u' || flags.contains 'y'
  | _ => false

theorem regexShows_of_regexFeature? (h : regexFeature? body flags = some f) :
    regexShows body flags f = true := by
  rw [regexFeature?] at h
  split_ifs at h with hv hd hs hgroup hproperty huy <;> obtain rfl := Option.some.inj h <;>
    assumption

/-- What passes a test but is not told is hidden by what is newer or as new. -/
theorem exists_regexFeature?_of_regexShows (h : regexShows body flags f = true) :
    ∃ g, regexFeature? body flags = some g ∧ f.edition ≤ g.edition := by
  rw [regexFeature?]
  cases f with
  | regexV | regexD | regexS | regexGroup | regexProperty | regexUY =>
    simp only [regexShows] at h
    split_ifs <;> exact ⟨_, rfl, by decide⟩
  | _ => cases h

theorem holds_property_iff (p : Standing → Bool) :
    (holds "\\p\x7b".toList body || holds "\\P\x7b".toList body) = true ↔
      StandsProperty p body ∨ StandsProperty (!p ·) body := by
  rw [Bool.or_eq_true, holds_iff_stands p, holds_iff_stands p]
  exact or_or_or_comm

theorem RegexUses.shows (h : RegexUses body flags f) : regexShows body flags f = true := by
  cases h with
  | v h | d h | s h => exact List.contains_iff_mem.2 h
  | group h => exact (holds_iff_stands _).2 (.inl h)
  | property hu h =>
    exact Bool.and_eq_true_iff.2 ⟨List.contains_iff_mem.2 hu, (holds_property_iff _).2 (.inl h)⟩
  | u h => exact Bool.or_eq_true_iff.2 (.inl (List.contains_iff_mem.2 h))
  | y h => exact Bool.or_eq_true_iff.2 (.inr (List.contains_iff_mem.2 h))

theorem RegexMentions.shows (h : RegexMentions body flags f) :
    regexShows body flags f = true := by
  cases h with
  | group h => exact (holds_iff_stands _).2 (.inr h)
  | property hu h =>
    exact Bool.and_eq_true_iff.2 ⟨List.contains_iff_mem.2 hu, (holds_property_iff _).2 (.inl h)⟩

theorem uses_or_mentions_of_regexShows (h : regexShows body flags f = true) :
    RegexUses body flags f ∨ RegexMentions body flags f := by
  cases f with
  | regexV => exact .inl (.v (List.contains_iff_mem.1 h))
  | regexD => exact .inl (.d (List.contains_iff_mem.1 h))
  | regexS => exact .inl (.s (List.contains_iff_mem.1 h))
  | regexGroup => exact ((holds_iff_stands (·.isPlain)).1 h).imp .group .group
  | regexProperty =>
    obtain ⟨hu, hshown⟩ := Bool.and_eq_true_iff.1 h
    have hu : 'u' ∈ flags := List.contains_iff_mem.1 hu
    exact ((holds_property_iff (·.escaped)).1 hshown).symm.imp (.property hu) (.property hu)
  | regexUY =>
    rcases Bool.or_eq_true_iff.1 h with hu | hy
    · exact .inl (.u (List.contains_iff_mem.1 hu))
    · exact .inl (.y (List.contains_iff_mem.1 hy))
  | _ => cases h

theorem regexFeature?_above_iff {level : Edition} :
    (∃ f ∈ regexFeature? body flags, level < f.edition) ↔
      ∃ f, (RegexUses body flags f ∨ RegexMentions body flags f) ∧ level < f.edition := by
  constructor
  · rintro ⟨f, hf, habove⟩
    exact ⟨f, uses_or_mentions_of_regexShows (regexShows_of_regexFeature? hf), habove⟩
  · rintro ⟨f, hf, habove⟩
    obtain ⟨g, hg, hle⟩ := exists_regexFeature?_of_regexShows (hf.elim (·.shows) (·.shows))
    exact ⟨g, hg, Nat.lt_of_lt_of_le habove hle⟩

/-- A literal as it is written. -/
def regexText (body flags : List Char) : List Char := '/' :: body ++ '/' :: flags

theorem regexParts_regexText (hflags : '/' ∉ flags) :
    regexParts (regexText body flags) = (body, flags) := by
  have hpos : ∀ c ∈ flags.reverse, (c != '/') = true := by
    intro c hc
    exact bne_iff_ne.2 fun h => hflags (h ▸ List.mem_reverse.1 hc)
  have hreverse : (regexText body flags).reverse =
      flags.reverse ++ '/' :: ('/' :: body).reverse := by
    simp only [regexText, List.reverse_append, List.reverse_cons, List.append_assoc,
      List.cons_append, List.nil_append]
  have htake : (regexText body flags).reverse.takeWhile (· != '/') = flags.reverse := by
    rw [hreverse, List.takeWhile_append_of_pos hpos, List.takeWhile_cons_of_neg (by decide),
      List.append_nil]
  have hlength : (regexText body flags).length - flags.length - 1 = ('/' :: body).length := by
    simp only [regexText, List.length_append, List.length_cons]
    omega
  rw [regexParts, htake, List.length_reverse, hlength, regexText, List.take_left,
    List.reverse_reverse]
  rfl

/-- Some use of the node is newer than the level. -/
def Tree.Rejected (n : Tree) (level : Edition) : Prop :=
  ∃ f ∈ n.features, level < f.edition

theorem Tree.firstAbove?_eq_none_iff {t : Tree} {level : Edition} :
    Finding.firstAbove? level t.findings = none ↔ ∀ n ∈ t.nodes, ¬ n.Rejected level := by
  constructor
  · rintro h n hn ⟨f, hf, habove⟩
    exact Finding.not_above_of_feature h hn hf habove
  · intro h
    rw [Finding.firstAbove?_eq_none]
    intro x hx habove
    obtain ⟨n, hn, hf, _⟩ := Tree.mem_findings.1 hx
    exact h n hn ⟨x.feature, hf, habove⟩

theorem Tree.Rejected.exists_report {t n : Tree} {level : Edition} (h : n.Rejected level)
    (hn : n ∈ t.nodes) : ∃ x, Finding.firstAbove? level t.findings = some x := by
  rw [← Option.ne_none_iff_exists']
  exact fun hnone => Tree.firstAbove?_eq_none_iff.1 hnone n hn h

/-- A literal is rejected, and a script with it, at the levels below what it uses or has as plain
text. -/
theorem regex_rejected_iff {t n : Tree} {body flags : List Char} {level : Edition}
    (hn : n ∈ t.nodes) (hk : n.kind = .regex (regexText body flags)) (hflags : '/' ∉ flags) :
    (n.Rejected level ↔
      ∃ f, (RegexUses body flags f ∨ RegexMentions body flags f) ∧ level < f.edition) ∧
    (n.Rejected level → ∃ x, Finding.firstAbove? level t.findings = some x) := by
  refine ⟨?_, fun h => h.exists_report hn⟩
  rw [← regexFeature?_above_iff, Tree.Rejected, Tree.features, hk]
  simp only [regexParts_regexText hflags, Option.mem_toList, Option.mem_def]

/-- A lookbehind, with a slash in a class. -/
theorem lookbehind_rejected_below_es2018 :
    ∃ tree, read false "/(?<=[/])b/g".toList = .ok tree ∧
      ∃ n ∈ tree.nodes, n.kind = .regex (regexText "(?<=[/])b".toList ['g']) ∧
        (∃ x, Finding.firstAbove? .es2017 tree.findings = some x) ∧ ¬ n.Rejected .es2018 := by
  obtain ⟨tree, hread, hcheck⟩ := exists_read false "/(?<=[/])b/g".toList
    (fun t => ∃ n ∈ t.nodes, n.kind = .regex (regexText "(?<=[/])b".toList ['g']))
    (by decide +kernel)
  obtain ⟨n, hn, hk⟩ := of_decide_eq_true hcheck
  refine ⟨tree, hread, n, hn, hk, ?_, fun h => ?_⟩
  · obtain ⟨hrejected, hreport⟩ := @regex_rejected_iff _ _ _ _ .es2017 hn hk (by decide)
    have hgroup : RegexUses "(?<=[/])b".toList ['g'] .regexGroup := .group (by decide +kernel)
    exact hreport (hrejected.2 ⟨_, .inl hgroup, by decide⟩)
  · obtain ⟨f, huse | hmention, habove⟩ := (regex_rejected_iff hn hk (by decide)).1.1 h
    · cases huse with
      | v hflag | d hflag => exact absurd hflag (by decide)
      | _ => exact absurd habove (by decide)
    · cases hmention <;> exact absurd habove (by decide)

/-- In a class the text of a group is plain, and yet the literal is rejected. -/
theorem plain_text_rejected :
    ∃ tree, read false "a = /[(?<]/".toList = .ok tree ∧
      (∃ n ∈ tree.nodes, n.kind = .regex (regexText "[(?<]".toList [])) ∧
      Finding.firstAbove? .es5 tree.findings = some ⟨.regexGroup, 4⟩ ∧
      ∀ f, ¬ RegexUses "[(?<]".toList [] f := by
  obtain ⟨tree, hread, hcheck⟩ := exists_read false "a = /[(?<]/".toList
    (fun t => (∃ n ∈ t.nodes, n.kind = .regex (regexText "[(?<]".toList [])) ∧
      Finding.firstAbove? .es5 t.findings = some ⟨.regexGroup, 4⟩) (by decide +kernel)
  obtain ⟨hliteral, hreport⟩ := of_decide_eq_true hcheck
  refine ⟨tree, hread, hliteral, hreport, fun f huse => ?_⟩
  cases huse with
  | group h => exact absurd h (by decide +kernel)
  | v hflag | d hflag | s hflag | property hflag | u hflag | y hflag => cases hflag

end

/-! ## Strings and numbers -/

/-- A feature that depends on how a string or a number is written. -/
def Feature.isSpelling : Feature → Bool
  | codePointEscape | radixLiteral | numericSeparator => true
  | _ => false

theorem mem_featureIf {b : Bool} {f g : Feature} : g ∈ featureIf b f ↔ b = true ∧ g = f := by
  rw [featureIf]
  split <;> simp_all

theorem all_featureIf {p : Feature → Bool} {b : Bool} {f : Feature} :
    (featureIf b f).all p = (!b || p f) := by
  cases b <;> simp [featureIf]

theorem isSpelling_of_regexFeature? {body flags : List Char} {f : Feature}
    (h : regexFeature? body flags = some f) : f.isSpelling = false := by
  have hshows := regexShows_of_regexFeature? h
  cases f <;> first | rfl | cases hshows

theorem all_bindingFeatures (ps : List Tree) :
    (bindingFeatures ps).all (!·.isSpelling) = true := by
  cases ps with
  | nil => rfl
  | cons p ps =>
    rw [bindingFeatures]
    split <;> rfl

theorem all_assignmentFeatures (sign : String) (ps : List Tree) :
    (assignmentFeatures sign ps).all (!·.isSpelling) = true := by
  cases ps <;> simp [assignmentFeatures, all_featureIf, Feature.isSpelling]

/-- Only strings and numbers are said to use such features. -/
theorem Tree.literal_of_isSpelling {n : Tree} {f : Feature} (hf : f.isSpelling = true)
    (h : f ∈ n.features) : (∃ raw, n.kind = .string raw) ∨ ∃ raw, n.kind = .number raw := by
  by_contra hkind
  have hall : n.features.all (!·.isSpelling) = true := by
    rw [features]
    cases hk : n.kind with
    | string raw => exact absurd (.inl ⟨raw, hk⟩) hkind
    | number raw => exact absurd (.inr ⟨raw, hk⟩) hkind
    | declarator | parameter => exact all_bindingFeatures n.parts
    | assignment sign => exact all_assignmentFeatures sign n.parts
    | regex raw => simpa using fun f => isSpelling_of_regexFeature?
    | declaration word => cases word <;> rfl
    | spread place | rest place | classDefinition place => cases place <;> rfl
    | function place async generator =>
      cases place <;> cases async <;> cases generator <;> rfl
    | _ => first | rfl | simp [all_featureIf, Feature.isSpelling]
  have hnot : (!f.isSpelling) = true := List.all_eq_true.1 hall f h
  rw [hf] at hnot
  cases hnot

end PluginAudit.Script
