import PluginAudit.Proofs.Tree.Nodes
import PluginAudit.Script.Feature

/-!
# The finding that is reported

What a tree uses is one list, the same for all levels. The report at a level is the finding above
it with the least offset, and of those at one offset the first in the list (`GoesBy`). A walk over
the tree that keeps a single finding on its way comes to the same report (`Tree.gate`).
-/

namespace PluginAudit.Script

namespace Finding

/-- Between `before` and `after` stands the finding to report: none above the level has a smaller
offset, and none before it has the same. -/
structure IsFirstAbove (level : Edition) (before : List Finding) (f : Finding)
    (after : List Finding) : Prop where
  above : level < f.feature.edition
  before_later : ∀ g ∈ before, level < g.feature.edition → f.offset < g.offset
  after_no_earlier : ∀ g ∈ after, level < g.feature.edition → f.offset ≤ g.offset

variable {level : Edition} {fs gs before after met : List Finding} {f g : Finding}

theorem IsFirstAbove.cons (h : IsFirstAbove level before f after)
    (hg : level < g.feature.edition → f.offset < g.offset) :
    IsFirstAbove level (g :: before) f after where
  above := h.above
  before_later := List.forall_mem_cons.2 ⟨hg, h.before_later⟩
  after_no_earlier := h.after_no_earlier

theorem IsFirstAbove.append (h : IsFirstAbove level before f after)
    (hgs : ∀ g ∈ gs, level < g.feature.edition → f.offset ≤ g.offset) :
    IsFirstAbove level before f (after ++ gs) where
  above := h.above
  before_later := h.before_later
  after_no_earlier := List.forall_mem_append.2 ⟨h.after_no_earlier, hgs⟩

theorem mem_of_firstAbove? (h : firstAbove? level fs = some f) : f ∈ fs :=
  (List.mem_filter.1 (earliest?_mem h)).1

theorem above_of_firstAbove? (h : firstAbove? level fs = some f) : level < f.feature.edition := by
  have hmem := earliest?_mem h
  simpa using (List.mem_filter.1 hmem).2

theorem offset_le_of_firstAbove? (h : firstAbove? level fs = some f) (hg : g ∈ fs)
    (habove : level < g.feature.edition) : f.offset ≤ g.offset := by
  have hmem : g ∈ fs.filter fun f => level < f.feature.edition := by
    simpa [hg] using habove
  exact earliest?_le h hmem

theorem firstAbove?_cons_of_not_above (hf : ¬ level < f.feature.edition) :
    firstAbove? level (f :: fs) = firstAbove? level fs := by
  simp [firstAbove?, hf]

theorem firstAbove?_cons_of_none (hf : level < f.feature.edition)
    (hfs : firstAbove? level fs = none) : firstAbove? level (f :: fs) = some f := by
  rw [firstAbove?] at hfs
  simp [firstAbove?, hf, earliest?, hfs]

theorem firstAbove?_cons_of_some (hf : level < f.feature.edition)
    (hfs : firstAbove? level fs = some g) :
    firstAbove? level (f :: fs) = some (if g.offset < f.offset then g else f) := by
  rw [firstAbove?] at hfs
  simp [firstAbove?, hf, earliest?, hfs]

theorem IsFirstAbove.firstAbove?_eq (h : IsFirstAbove level before f after) :
    firstAbove? level (before ++ f :: after) = some f := by
  induction before with
  | nil =>
    cases hafter : firstAbove? level after with
    | none => exact firstAbove?_cons_of_none h.above hafter
    | some g =>
      have hle : f.offset ≤ g.offset :=
        h.after_no_earlier g (mem_of_firstAbove? hafter) (above_of_firstAbove? hafter)
      rw [List.nil_append, firstAbove?_cons_of_some h.above hafter, if_neg (by omega)]
  | cons g before ih =>
    obtain ⟨hg, hbefore⟩ := List.forall_mem_cons.1 h.before_later
    have hrest := ih ⟨h.above, hbefore, h.after_no_earlier⟩
    by_cases habove : level < g.feature.edition
    · rw [List.cons_append, firstAbove?_cons_of_some habove hrest, if_pos (hg habove)]
    · rw [List.cons_append, firstAbove?_cons_of_not_above habove, hrest]

theorem exists_isFirstAbove (h : firstAbove? level fs = some f) :
    ∃ before after, fs = before ++ f :: after ∧ IsFirstAbove level before f after := by
  induction fs generalizing f with
  | nil => cases h
  | cons g gs ih =>
    by_cases hg : level < g.feature.edition
    · cases hgs : firstAbove? level gs with
      | none =>
        rw [firstAbove?_cons_of_none hg hgs] at h
        obtain rfl := Option.some.inj h
        have hnone := firstAbove?_eq_none.1 hgs
        exact ⟨[], gs, rfl, hg, nofun, fun k hk habove => absurd habove (hnone k hk)⟩
      | some k =>
        rw [firstAbove?_cons_of_some hg hgs] at h
        by_cases hlt : k.offset < g.offset
        · rw [if_pos hlt] at h
          obtain rfl := Option.some.inj h
          obtain ⟨before, after, rfl, hfirst⟩ := ih hgs
          exact ⟨g :: before, after, rfl, hfirst.cons fun _ => hlt⟩
        · -- all others are at `k` or behind it
          rw [if_neg hlt] at h
          obtain rfl := Option.some.inj h
          refine ⟨[], gs, rfl, hg, nofun, fun m hm habove => ?_⟩
          have hkm : k.offset ≤ m.offset := offset_le_of_firstAbove? hgs hm habove
          omega
    · rw [firstAbove?_cons_of_not_above hg] at h
      obtain ⟨before, after, rfl, hfirst⟩ := ih h
      exact ⟨g :: before, after, rfl, hfirst.cons fun habove => absurd habove hg⟩

theorem firstAbove?_eq_some :
    firstAbove? level fs = some f ↔
      ∃ before after, fs = before ++ f :: after ∧ IsFirstAbove level before f after := by
  constructor
  · exact exists_isFirstAbove
  · rintro ⟨before, after, rfl, h⟩
    exact h.firstAbove?_eq

theorem firstAbove?_offset_mono {v w : Edition} (hvw : v ≤ w) (hf : firstAbove? v fs = some f)
    (hg : firstAbove? w fs = some g) : f.offset ≤ g.offset := by
  have habove : v < g.feature.edition := Nat.lt_of_le_of_lt hvw (above_of_firstAbove? hg)
  exact offset_le_of_firstAbove? hf (mem_of_firstAbove? hg) habove

/-! ## One finding at a time -/

/-- A finding above the level is kept unless the one kept so far has no greater offset. -/
def keep (level : Edition) (kept : Option Finding) (f : Finding) : Option Finding :=
  if f.feature.edition ≤ level then kept
  else match kept with
    | some g => if g.offset ≤ f.offset then some g else some f
    | none => some f

theorem keep_of_not_above (hf : ¬ level < f.feature.edition) (kept : Option Finding) :
    keep level kept f = kept :=
  if_pos (Nat.le_of_not_lt hf)

theorem keep_none (hf : level < f.feature.edition) : keep level none f = some f :=
  if_neg (Nat.not_le_of_lt hf)

theorem keep_some (hf : level < f.feature.edition) :
    keep level (some g) f = if g.offset ≤ f.offset then some g else some f :=
  if_neg (Nat.not_le_of_lt hf)

/-- What is kept of the findings met so far is the one to report of them, and stays so with one
more. -/
theorem keep_firstAbove? :
    keep level (firstAbove? level met) f = firstAbove? level (met ++ [f]) := by
  cases hmet : firstAbove? level met with
  | none =>
    have hnone := firstAbove?_eq_none.1 hmet
    by_cases hf : level < f.feature.edition
    · have hfirst : IsFirstAbove level met f [] :=
        ⟨hf, fun g hg habove => absurd habove (hnone g hg), nofun⟩
      rw [keep_none hf, hfirst.firstAbove?_eq]
    · rw [keep_of_not_above hf, eq_comm, firstAbove?_eq_none]
      exact List.forall_mem_append.2 ⟨hnone, List.forall_mem_singleton.2 hf⟩
  | some g =>
    obtain ⟨before, after, rfl, hfirst⟩ := exists_isFirstAbove hmet
    have hstays : (level < f.feature.edition → g.offset ≤ f.offset) →
        firstAbove? level (before ++ g :: after ++ [f]) = some g := by
      intro hf
      rw [List.append_assoc, List.cons_append]
      exact (hfirst.append (List.forall_mem_singleton.2 hf)).firstAbove?_eq
    by_cases hf : level < f.feature.edition
    · rw [keep_some hf]
      by_cases hle : g.offset ≤ f.offset
      · rw [if_pos hle, hstays fun _ => hle]
      · have hnew : IsFirstAbove level (before ++ g :: after) f [] := by
          refine ⟨hf, fun k hk habove => ?_, nofun⟩
          have hgk : g.offset ≤ k.offset := offset_le_of_firstAbove? hmet hk habove
          omega
        rw [if_neg hle, hnew.firstAbove?_eq]
    · rw [keep_of_not_above hf, hstays fun habove => absurd habove hf]

theorem foldl_keep :
    fs.foldl (keep level) (firstAbove? level met) = firstAbove? level (met ++ fs) := by
  induction fs generalizing met with
  | nil => rw [List.foldl_nil, List.append_nil]
  | cons f fs ih => rw [List.foldl_cons, keep_firstAbove?, ih, List.append_assoc]; rfl

end Finding

/-! ## The walk -/

namespace Tree

def ownFindings (n : Tree) : List Finding := n.features.map (⟨·, n.start⟩)

mutual

/-- Goes through a tree, each node before its parts, with the finding kept so far. -/
def gate (level : Edition) (kept : Option Finding) : Tree → Option Finding
  | .node k s e ps =>
    gateAll level ((Tree.node k s e ps).ownFindings.foldl (Finding.keep level) kept) ps

def gateAll (level : Edition) (kept : Option Finding) : List Tree → Option Finding
  | [] => kept
  | t :: ts => gateAll level (gate level kept t) ts

end

theorem findings_eq (t : Tree) : t.findings = t.ownFindings ++ t.parts.flatMap findings := by
  cases t
  rw [findings, nodes, nodesOfAll_eq_flatMap, List.flatMap_cons, List.flatMap_assoc]
  rfl

variable {level : Edition}

theorem gateAll_of_parts {ts : List Tree} {met : List Finding}
    (h : ∀ t ∈ ts, ∀ met, t.gate level (Finding.firstAbove? level met) =
      Finding.firstAbove? level (met ++ t.findings)) :
    gateAll level (Finding.firstAbove? level met) ts =
      Finding.firstAbove? level (met ++ ts.flatMap findings) := by
  induction ts generalizing met with
  | nil => rw [gateAll, List.flatMap_nil, List.append_nil]
  | cons t ts ih =>
    obtain ⟨ht, hts⟩ := List.forall_mem_cons.1 h
    rw [gateAll, ht, ih hts, List.flatMap_cons, List.append_assoc]

/-- If the walk comes to a tree with what is to be reported so far, it leaves it with what is to
be reported with the tree. -/
theorem gate_firstAbove? (t : Tree) (met : List Finding) :
    t.gate level (Finding.firstAbove? level met) =
      Finding.firstAbove? level (met ++ t.findings) := by
  induction t using induct generalizing met with
  | step t ih =>
    obtain ⟨k, s, e, ps⟩ := t
    rw [parts_node] at ih
    rw [gate, Finding.foldl_keep, gateAll_of_parts ih, findings_eq, List.append_assoc, parts_node]

end Tree

/-! ## All levels -/

/-- At every level a check reports by one list of findings. -/
structure GoesBy (check : Edition → Option Finding) (fs : List Finding) : Prop where
  passes_iff : ∀ level, check level = none ↔ ∀ f ∈ fs, f.feature.edition ≤ level
  reports_iff : ∀ level f, check level = some f ↔
    ∃ before after, fs = before ++ f :: after ∧ Finding.IsFirstAbove level before f after
  above : ∀ {level f}, check level = some f → level < f.feature.edition
  offset_mono : ∀ {v w f g}, v ≤ w → check v = some f → check w = some g → f.offset ≤ g.offset

/-- The findings of a tree, which no level has a part in, decide the report at every level, and the
walk that keeps one finding at a time gives that report. -/
theorem report_goes_by_findings (t : Tree) :
    GoesBy (Finding.firstAbove? · t.findings) t.findings ∧
      ∀ level, t.gate level none = Finding.firstAbove? level t.findings := by
  constructor
  · constructor
    · intro level
      rw [Finding.firstAbove?_eq_none]
      exact forall₂_congr fun f _ => Nat.not_lt
    · exact fun level f => Finding.firstAbove?_eq_some
    · exact Finding.above_of_firstAbove?
    · exact Finding.firstAbove?_offset_mono
  · exact fun level => Tree.gate_firstAbove? t []

end PluginAudit.Script
