import PluginAudit.Proofs.Files.Walking

/-!
# What a search comes to

The hits of a search, by the patterns that are still to fit, and an induction along the steps of a
search: whatever holds where it begins and is kept by each step holds wherever it has a hit.
-/

namespace PluginAudit.Files.Search

variable {fs : FileSystem} {mustBeDir : Bool} {n : Nat} {dir s : Spot} {hit : Hit}
  {pattern : List Glob} {rest patterns : List (List Glob)} {name : Name}
  {entries : List (Name × Node)}

/-- The hits below a directory. -/
def hits (fs : FileSystem) (mustBeDir : Bool) (n : Nat) (patterns : List (List Glob))
    (dir : Spot) : List Hit :=
  (leads fs patterns dir).flatMap (follow fs mustBeDir n)

/-- The hit at a path that all patterns fit. -/
def arrival (mustBeDir : Bool) (s : Spot) : List Hit :=
  if mustBeDir && !s.isDirectory then [] else [.found s.path]

/-- The hits from a path that fits all patterns before `rest`. -/
def onward (fs : FileSystem) (mustBeDir : Bool) (n : Nat) (rest : List (List Glob)) (s : Spot) :
    List Hit :=
  if rest.isEmpty then arrival mustBeDir s else hits fs mustBeDir n rest s

theorem follow_zero (lead : Lead) : follow fs mustBeDir 0 lead = [] := by
  cases lead <;> rfl

theorem hits_zero : hits fs mustBeDir 0 patterns dir = [] := by
  rw [hits, List.flatMap_eq_nil_iff]
  exact fun lead _ => follow_zero lead

theorem flatMap_leads_onward :
    (if rest.isEmpty then [.found s] else leads fs rest s).flatMap (follow fs mustBeDir (n + 1)) =
      onward fs mustBeDir (n + 1) rest s := by
  rw [onward]
  split
  · simp [follow, arrival]
  · rfl

/-- Whether a literal name leads on. -/
def leadsTo (fs : FileSystem) (dir : Spot) (name : Name) : Bool :=
  if isDots name then dir.isDirectory else fs.exists? (childPath dir.path name)

theorem hits_literal (h : Glob.literal? pattern = some name) :
    hits fs mustBeDir (n + 1) (pattern :: rest) dir =
      if leadsTo fs dir name then
        onward fs mustBeDir (n + 1) rest (fs.spot (childPath dir.path name))
      else [] := by
  rw [hits, leads]
  simp only [h]
  change List.flatMap _ (if leadsTo fs dir name = true then _ else _) = _
  split
  · exact flatMap_leads_onward
  · rfl

theorem hits_wild (h : Glob.literal? pattern = none) (hdir : dir.isDirectory = true)
    (hlist : fs.list dir.path = .ok entries) :
    hits fs mustBeDir (n + 1) (pattern :: rest) dir =
      (fittingDots pattern).flatMap
          (fun d => onward fs mustBeDir (n + 1) rest (fs.spot (dir.path.join d))) ++
        entries.flatMap fun e => follow fs mustBeDir (n + 1)
          (.candidate (entrySpot fs dir.path e.1 e.2) (pattern :: rest)) := by
  rw [hits, leads]
  simp only [h, hdir, hlist, if_true, List.flatMap_append, List.flatMap_assoc, List.flatMap_map,
    flatMap_leads_onward]

theorem hits_wild_unlisted {e : FileError} (h : Glob.literal? pattern = none)
    (hdir : dir.isDirectory = true) (hlist : fs.list dir.path = .error e) :
    hits fs mustBeDir (n + 1) (pattern :: rest) dir = [.unlisted dir.path e] := by
  rw [hits, leads]
  simp [h, hdir, hlist, follow]

theorem hits_wild_none (h : Glob.literal? pattern = none) (hdir : dir.isDirectory = false) :
    hits fs mustBeDir n (pattern :: rest) dir = [] := by
  rw [hits, leads]
  simp [h, hdir]

/-- The hits of a candidate whose name has to fit the next pattern. -/
def named (fs : FileSystem) (mustBeDir : Bool) (n : Nat) (s : Spot) :
    List (List Glob) → List Hit
  | [] => []
  | pattern :: rest =>
    match s.path.fileName? with
    | some name => if Glob.fits pattern name then onward fs mustBeDir n rest s else []
    | none => []

/-- The hits of a candidate behind `**`, where the patterns after it fit from here. -/
def direct (fs : FileSystem) (mustBeDir : Bool) (n : Nat) (rest : List (List Glob)) (s : Spot) :
    List Hit :=
  if rest.isEmpty then if s.isDirectory then [.found s.path] else []
  else named fs mustBeDir n s rest

/-- The hits below a candidate, if it is a directory, where `**` goes on. -/
def below (fs : FileSystem) (mustBeDir : Bool) (n : Nat) (rest : List (List Glob)) (s : Spot) :
    List Hit :=
  if s.isDirectory then hits fs mustBeDir n ([.directories] :: rest) s else []

theorem collapse_of_ne (h : pattern ≠ [.directories]) :
    collapse (pattern :: rest) = pattern :: rest := by
  unfold collapse
  split
  · next heq => exact absurd (List.cons.inj heq).1 h
  · rfl

theorem named_cons (fs : FileSystem) (mustBeDir : Bool) (n : Nat) (s : Spot)
    (pattern : List Glob) (rest : List (List Glob)) :
    named fs mustBeDir n s (pattern :: rest) =
      match s.path.fileName? with
      | some name =>
        if !Glob.fits pattern name then []
        else if rest.isEmpty then if mustBeDir && !s.isDirectory then [] else [.found s.path]
        else (leads fs rest s).flatMap (follow fs mustBeDir n)
      | none => [] := by
  rw [named]
  cases s.path.fileName? with
  | none => rfl
  | some name =>
    simp only [onward, arrival, hits]
    cases Glob.fits pattern name <;> rfl

theorem follow_candidate (h : ∀ rest, collapse patterns ≠ [.directories] :: rest) :
    follow fs mustBeDir (n + 1) (.candidate s patterns) =
      named fs mustBeDir n s (collapse patterns) := by
  rw [follow]
  split
  · next rest hrest => exact absurd hrest (h rest)
  · generalize collapse patterns = patterns
    cases patterns with
    | nil => rfl
    | cons pattern rest =>
      rw [named_cons]
      cases s.path.fileName? <;> rfl

theorem follow_candidate_of_ne (h : pattern ≠ [.directories]) :
    follow fs mustBeDir (n + 1) (.candidate s (pattern :: rest)) =
      named fs mustBeDir n s (pattern :: rest) := by
  rw [follow_candidate, collapse_of_ne h]
  rw [collapse_of_ne h]
  exact fun rest' heq => h (List.cons.inj heq).1

theorem follow_candidate_directories (h : collapse patterns = [.directories] :: rest) :
    follow fs mustBeDir (n + 1) (.candidate s patterns) =
      direct fs mustBeDir n rest s ++ below fs mustBeDir n rest s := by
  rw [follow, direct]
  simp only [h, below, hits]
  cases rest with
  | nil => cases s.isDirectory <;> rfl
  | cons pattern rest =>
    rw [named_cons]
    cases s.path.fileName? <;> rfl

theorem mem_arrival (h : hit ∈ arrival mustBeDir s) : hit = .found s.path := by
  rw [arrival] at h
  split at h
  · cases h
  · exact List.mem_singleton.1 h

theorem onward_cons :
    onward fs mustBeDir n (pattern :: rest) s = hits fs mustBeDir n (pattern :: rest) s := rfl

theorem onward_eq_hits (h : rest ≠ []) :
    onward fs mustBeDir n rest s = hits fs mustBeDir n rest s := by
  obtain ⟨pattern, rest, rfl⟩ := List.exists_cons_of_ne_nil h
  exact onward_cons

theorem fits_of_mem_fittingDots (h : name ∈ fittingDots pattern) :
    Glob.fits pattern name = true := by
  unfold fittingDots at h
  split at h
  · exact (List.mem_filter.1 h).2
  · cases h

theorem mem_fittingDots (h : name ∈ fittingDots pattern) : name = ['.', '.'] ∨ name = ['.'] := by
  unfold fittingDots at h
  split at h
  · simpa using (List.mem_filter.1 h).1
  · cases h

theorem mem_onward (h : hit ∈ onward fs mustBeDir n rest s) :
    rest = [] ∧ hit = .found s.path ∨ hit ∈ hits fs mustBeDir n rest s := by
  rw [onward] at h
  split at h
  · next hempty => exact .inl ⟨List.isEmpty_iff.1 hempty, mem_arrival h⟩
  · exact .inr h

theorem mem_named (h : hit ∈ named fs mustBeDir n s patterns) :
    ∃ pattern rest name, patterns = pattern :: rest ∧ s.path.fileName? = some name ∧
      Glob.fits pattern name = true ∧ hit ∈ onward fs mustBeDir n rest s := by
  cases patterns with
  | nil => cases h
  | cons pattern rest =>
    rw [named] at h
    split at h
    · next name hname =>
      split at h
      · next hfits => exact ⟨pattern, rest, name, rfl, hname, hfits, h⟩
      · cases h
    · cases h

theorem mem_direct (h : hit ∈ direct fs mustBeDir n rest s) :
    rest = [] ∧ hit = .found s.path ∨ hit ∈ named fs mustBeDir n s rest := by
  rw [direct] at h
  split at h
  · next hempty =>
    split at h
    · exact .inl ⟨List.isEmpty_iff.1 hempty, List.mem_singleton.1 h⟩
    · cases h
  · exact .inr h

theorem mem_below (h : hit ∈ below fs mustBeDir n rest s) :
    hit ∈ hits fs mustBeDir n ([.directories] :: rest) s := by
  rw [below] at h
  split at h
  · exact h
  · cases h

/-- A search comes to a hit by a name that the pattern stands for, by a special name, by one that is
listed, or because nothing is. -/
theorem mem_hits (h : hit ∈ hits fs mustBeDir (n + 1) (pattern :: rest) dir) :
    (∃ name, Glob.literal? pattern = some name ∧
      hit ∈ onward fs mustBeDir (n + 1) rest (fs.spot (childPath dir.path name))) ∨
    Glob.literal? pattern = none ∧ dir.isDirectory = true ∧
      ((∃ d ∈ fittingDots pattern,
        hit ∈ onward fs mustBeDir (n + 1) rest (fs.spot (dir.path.join d))) ∨
      (∃ entries, fs.list dir.path = .ok entries ∧ ∃ e ∈ entries, hit ∈ follow fs mustBeDir (n + 1)
        (.candidate (entrySpot fs dir.path e.1 e.2) (pattern :: rest))) ∨
      ∃ e, fs.list dir.path = .error e ∧ hit = .unlisted dir.path e) := by
  cases hliteral : Glob.literal? pattern with
  | some name =>
    rw [hits_literal hliteral] at h
    split at h
    · exact .inl ⟨name, rfl, h⟩
    · cases h
  | none =>
    cases hdir : dir.isDirectory with
    | false =>
      rw [hits_wild_none hliteral hdir] at h
      cases h
    | true =>
      refine .inr ⟨rfl, rfl, ?_⟩
      cases hlist : fs.list dir.path with
      | error e =>
        rw [hits_wild_unlisted hliteral hdir hlist] at h
        exact .inr (.inr ⟨e, rfl, List.mem_singleton.1 h⟩)
      | ok entries =>
        rw [hits_wild hliteral hdir hlist, List.mem_append, List.mem_flatMap,
          List.mem_flatMap] at h
        rcases h with ⟨d, hd, h⟩ | ⟨e, he, h⟩
        · exact .inl ⟨d, hd, h⟩
        · exact .inr (.inl ⟨entries, rfl, e, he, h⟩)

/-! ## Where hits are -/

/-- A search has the hit where it is: it finds the path, or takes it for a directory and cannot list
it. -/
def HasHit (fs : FileSystem) (s : Spot) : Hit → Prop
  | .found p => p = s.path
  | .unlisted p e => p = s.path ∧ s.isDirectory = true ∧ fs.list p = .error e

theorem HasHit.path_eq (h : HasHit fs s hit) : hit.path = s.path := by
  cases hit with
  | found => exact h
  | unlisted => exact h.1

theorem onward_induction {P : Spot → Prop} (hs : P s)
    (hhits : hit ∈ hits fs mustBeDir n rest s → ∃ t, P t ∧ HasHit fs t hit)
    (h : hit ∈ onward fs mustBeDir n rest s) : ∃ t, P t ∧ HasHit fs t hit := by
  rcases mem_onward h with ⟨_, rfl⟩ | h
  · exact ⟨s, hs, rfl⟩
  · exact hhits h

/-- What holds of a candidate, and of all hits below it, holds of what it comes to. -/
theorem candidate_induction {P : Spot → Prop} (hs : P s)
    (hhits : ∀ patterns, hit ∈ hits fs mustBeDir n patterns s → ∃ t, P t ∧ HasHit fs t hit)
    (h : hit ∈ follow fs mustBeDir (n + 1) (.candidate s patterns)) :
    ∃ t, P t ∧ HasHit fs t hit := by
  have hnamed : ∀ patterns, hit ∈ named fs mustBeDir n s patterns →
      ∃ t, P t ∧ HasHit fs t hit := by
    intro patterns h
    obtain ⟨pattern, rest, name, _, _, _, h⟩ := mem_named h
    exact onward_induction hs (hhits rest) h
  by_cases hdirectories : ∃ rest, collapse patterns = [.directories] :: rest
  · obtain ⟨rest, hrest⟩ := hdirectories
    rw [follow_candidate_directories hrest, List.mem_append] at h
    rcases h with h | h
    · rcases mem_direct h with ⟨_, rfl⟩ | h
      · exact ⟨s, hs, rfl⟩
      · exact hnamed rest h
    · exact hhits _ (mem_below h)
  · rw [follow_candidate fun rest hrest => hdirectories ⟨rest, hrest⟩] at h
    exact hnamed _ h

/-- What holds of a directory and is kept by each step holds wherever the search has a hit. -/
theorem hit_induction {P : Spot → Prop}
    (hasked : ∀ dir name, P dir → P (fs.spot (childPath dir.path name)) ∧
      P (fs.spot (dir.path.join name)))
    (hlisted : ∀ dir entries e, P dir → fs.list dir.path = .ok entries → e ∈ entries →
      P (entrySpot fs dir.path e.1 e.2)) (n : Nat) :
    (∀ patterns dir hit, P dir → hit ∈ hits fs mustBeDir n patterns dir →
      ∃ t, P t ∧ HasHit fs t hit) ∧
    ∀ s patterns hit, P s → hit ∈ follow fs mustBeDir n (.candidate s patterns) →
      ∃ t, P t ∧ HasHit fs t hit := by
  induction n with
  | zero =>
    refine ⟨fun patterns dir hit _ h => ?_, fun s patterns hit _ h => ?_⟩
    · rw [hits_zero] at h
      cases h
    · rw [follow_zero] at h
      cases h
  | succ n ih =>
    have hcandidate : ∀ s patterns hit, P s →
        hit ∈ follow fs mustBeDir (n + 1) (.candidate s patterns) → ∃ t, P t ∧ HasHit fs t hit :=
      fun s patterns hit hs => candidate_induction hs fun patterns => ih.1 patterns s hit hs
    refine ⟨fun patterns dir hit hdir h => ?_, hcandidate⟩
    induction patterns generalizing dir hit with
    | nil => cases h
    | cons pattern rest ihrest =>
      have honward : ∀ s, P s → hit ∈ onward fs mustBeDir (n + 1) rest s →
          ∃ t, P t ∧ HasHit fs t hit :=
        fun s hs => onward_induction hs (ihrest s hit hs)
      rcases mem_hits h with ⟨name, _, h⟩ |
        ⟨_, hisDir, ⟨d, _, h⟩ | ⟨entries, hlist, e, he, h⟩ | ⟨e, hlist, rfl⟩⟩
      · exact honward _ (hasked dir name hdir).1 h
      · exact honward _ (hasked dir d hdir).2 h
      · exact hcandidate _ _ hit (hlisted dir entries e hdir hlist he) h
      · exact ⟨dir, hdir, rfl, hisDir, hlist⟩

theorem list_of_unlisted {p : Path} {e : FileError}
    (h : .unlisted p e ∈ hits fs mustBeDir n patterns dir) : fs.list p = .error e := by
  obtain ⟨t, _, _, _, hlist⟩ := (hit_induction (P := fun _ => True)
    (fun _ _ _ => ⟨trivial, trivial⟩) (fun _ _ _ _ _ _ => trivial) n).1 patterns dir _ trivial h
  exact hlist

/-- The hits of a search are those below the root or the working directory. -/
theorem hits_of_search {text : List Char} {hs : List Hit} (h : search fs text = .ok hs) :
    ∃ patterns, (parts text).mapM Glob.read = .ok patterns ∧
      hs = if (Path.split text).isAbsolute then
          hits fs (text.getLast? == some '/') pathLimit (behindSlash patterns) (fs.spot Path.top)
        else hits fs (text.getLast? == some '/') pathLimit patterns (fs.spot Path.here) := by
  rw [search] at h
  cases hread : Glob.read text with
  | error e =>
    rw [hread] at h
    cases h
  | ok gs =>
    cases hpatterns : (parts text).mapM Glob.read with
    | error e =>
      rw [hread, hpatterns] at h
      cases h
    | ok patterns =>
      rw [hread, hpatterns] at h
      refine ⟨patterns, rfl, (Except.ok.inj h).symm.trans ?_⟩
      split <;> rfl

end PluginAudit.Files.Search
