import Mathlib.Data.List.Nodup
import PluginAudit.Plugin.Run
import PluginAudit.Proofs.Files.Depths
import PluginAudit.Proofs.Files.Order
import PluginAudit.Proofs.Plugin.Links

/-!
# The order of discovered plugins

Plugins ascend by their components. One is listed twice only if its path fits the pattern in several
ways, which takes two parts that fit varying numbers of components.
-/

namespace PluginAudit.Plugin

open Files Search

variable {fs : FileSystem} {mustBeDir : Bool} {n : Nat} {dir s : Spot} {p q : Path}
  {pattern : List Glob} {rest patterns : List (List Glob)} {name : Name}
  {entries : List (Name × Node)}

/-! ## Distinct components -/

/-- The components of what is found, but for those that say where a path begins. -/
def componentsOf (hs : List Hit) : List (List Path.Component) :=
  (hs.filterMap foundPath?).map Path.laterComponents

theorem mem_componentsOf {hs : List Hit} {c : List Path.Component} :
    c ∈ componentsOf hs ↔ ∃ q, .found q ∈ hs ∧ Path.laterComponents q = c := by
  simp only [componentsOf, List.mem_map, mem_foundPaths]

theorem componentsOf_append (hs hs' : List Hit) :
    componentsOf (hs ++ hs') = componentsOf hs ++ componentsOf hs' := by
  rw [componentsOf, List.filterMap_append, List.map_append]
  rfl

theorem componentsOf_flatMap {α : Type} (as : List α) (f : α → List Hit) :
    componentsOf (as.flatMap f) = as.flatMap fun a => componentsOf (f a) := by
  induction as with
  | nil => rfl
  | cons a as ih => rw [List.flatMap_cons, List.flatMap_cons, componentsOf_append, ih]

/-- Hits that branch by names are distinct if those of each branch are and no two branches share
one. -/
theorem nodup_flatMap_hits {α : Type} {as : List (Name × α)} {f : Name × α → List Hit}
    (has : (as.map (·.1)).Nodup) (hnodup : ∀ a ∈ as, (componentsOf (f a)).Nodup)
    (heq : ∀ a ∈ as, ∀ b ∈ as, ∀ p q, .found p ∈ f a → .found q ∈ f b →
      Path.laterComponents p = Path.laterComponents q → a.1 = b.1) :
    (componentsOf (as.flatMap f)).Nodup := by
  rw [componentsOf_flatMap, List.nodup_flatMap]
  refine ⟨hnodup, has.of_map.pairwise_of_forall_ne fun a ha b hb hne c hac hbc => ?_⟩
  obtain ⟨p, hp, hpc⟩ := mem_componentsOf.1 hac
  obtain ⟨q, hq, hqc⟩ := mem_componentsOf.1 hbc
  exact hne (List.inj_on_of_nodup_map has ha hb (heq a ha b hb p q hp hq (hpc.trans hqc.symm)))

/-- The hits of a directory by a special name that the pattern fits, or by an entry. -/
def branch (fs : FileSystem) (mustBeDir : Bool) (n : Nat) (pattern : List Glob)
    (rest : List (List Glob)) (dir : Spot) : Name × Option Node → List Hit
  | (name, none) => onward fs mustBeDir n rest (fs.spot (dir.path.join name))
  | (name, some m) =>
    follow fs mustBeDir n (.candidate (entrySpot fs dir.path name m) (pattern :: rest))

/-- The names that branch: the special ones that the pattern fits, and those in the directory. -/
def branches (pattern : List Glob) (entries : List (Name × Node)) : List (Name × Option Node) :=
  (fittingDots pattern).map (·, none) ++ entries.map fun e => (e.1, some e.2)

/-- A name that branches is special and fits the pattern, or a proper one of an entry. -/
def IsBranch (pattern : List Glob) : Name × Option Node → Prop
  | (name, none) => name ∈ fittingDots pattern
  | (name, some _) => IsProper name

theorem isBranch_of_mem (hentries : ∀ e ∈ entries, IsProper e.1) :
    ∀ b ∈ branches pattern entries, IsBranch pattern b := by
  intro b hb
  rcases List.mem_append.1 hb with hb | hb
  · obtain ⟨d, hd, rfl⟩ := List.mem_map.1 hb
    exact hd
  · obtain ⟨e, he, rfl⟩ := List.mem_map.1 hb
    exact hentries e he

theorem isDots_of_mem_fittingDots (h : name ∈ fittingDots pattern) : isDots name = true := by
  rcases mem_fittingDots h with rfl | rfl <;> rfl

theorem hits_branches (hliteral : Glob.literal? pattern = none) (hdir : dir.isDirectory = true)
    (hlist : fs.list dir.path = .ok entries) :
    hits fs mustBeDir (n + 1) (pattern :: rest) dir =
      (branches pattern entries).flatMap (branch fs mustBeDir (n + 1) pattern rest dir) := by
  rw [hits_wild hliteral hdir hlist, branches, List.flatMap_append, List.flatMap_map,
    List.flatMap_map]
  rfl

theorem nodup_branches (hnodup : (entries.map (·.1)).Nodup)
    (hproper : ∀ e ∈ entries, IsProper e.1) : ((branches pattern entries).map (·.1)).Nodup := by
  have hnames : (branches pattern entries).map (·.1) =
      fittingDots pattern ++ entries.map (·.1) := by
    rw [branches, List.map_append, List.map_map, List.map_map]
    exact congrArg (· ++ _) (List.map_id _)
  rw [hnames]
  refine List.Nodup.append ?_ hnodup fun d hd hname => ?_
  · unfold fittingDots
    split
    · exact List.Nodup.filter _ (by decide)
    · exact List.nodup_nil
  · obtain ⟨e, he, rfl⟩ := List.mem_map.1 hname
    have hdots := (hproper e he).2
    rw [isDots_of_mem_fittingDots hd] at hdots
    cases hdots

theorem IsBranch.cases {b : Name × Option Node} (h : IsBranch pattern b) :
    b.1 = ['.', '.'] ∨ b.1 = ['.'] ∧ ['.'] ∈ fittingDots pattern ∨ IsProper b.1 := by
  match b, h with
  | (name, none), h =>
    rcases mem_fittingDots h with rfl | rfl
    · exact .inl rfl
    · exact .inr (.inl ⟨rfl, h⟩)
  | (name, some m), h => exact .inr (.inr h)

theorem IsBranch.name_eq {a b : Name × Option Node} (ha : IsBranch pattern a)
    (hb : IsBranch pattern b) (h : Path.laterComponents [a.1] = Path.laterComponents [b.1]) :
    a.1 = b.1 := by
  have hcases : ∀ {name other : Name}, name = ['.', '.'] ∨ name = ['.'] ∨ IsProper name →
      other = ['.', '.'] ∨ other = ['.'] ∨ IsProper other →
      Path.laterComponents [name] = Path.laterComponents [other] → name = other := by
    rintro name other (rfl | rfl | hname) (rfl | rfl | hother) h
    · rfl
    · cases h
    · rw [laterComponents_of_isProper hother] at h
      cases h
    · cases h
    · rfl
    · rw [laterComponents_of_isProper hother] at h
      cases h
    · rw [laterComponents_of_isProper hname] at h
      cases h
    · rw [laterComponents_of_isProper hname] at h
      cases h
    · rw [laterComponents_of_isProper hname, laterComponents_of_isProper hother] at h
      exact Path.Component.name.inj (List.singleton_inj.1 h)
  exact hcases (ha.cases.imp_right (.imp_left (·.1))) (hb.cases.imp_right (.imp_left (·.1))) h

/-- What a branch finds is below its name. -/
theorem prefix_of_branch {b : Name × Option Node}
    (h : .found q ∈ branch fs mustBeDir n pattern rest dir b) :
    dir.path.laterComponents ++ Path.laterComponents [b.1] <+: Path.laterComponents q := by
  match b with
  | (name, none) =>
    rw [← Path.laterComponents_join]
    rcases mem_onward h with ⟨_, heq⟩ | h
    · rw [Hit.found.inj heq]
      exact List.prefix_refl _
    · exact (prefix_of_hit n).1 rest _ _ (List.prefix_refl _) h
  | (name, some m) =>
    have hpath := path_entrySpot fs dir.path name m
    rw [← Path.laterComponents_childPath, ← hpath]
    exact (prefix_of_hit n).2 _ _ _ (List.prefix_refl _) h

/-- If the patterns behind are not loose, what a branch finds lies at the depth that they and its
name say. -/
theorem depth_of_branch {b : Name × Option Node} (hfs : fs.root.WellFormed)
    (hne : pattern ≠ [.directories]) (htight : ∀ g ∈ rest, isLoose g = false)
    (h : .found q ∈ branch fs mustBeDir (n + 1) pattern rest dir b) :
    depth q = depth dir.path + depth [b.1] + totalWidth rest := by
  match b with
  | (name, none) =>
    rw [← depth_join]
    exact depth_of_onward (depth_of_found hfs (n + 1) rest _ htight) h
  | (name, some m) =>
    rw [branch, follow_candidate_of_ne hne] at h
    obtain ⟨_, _, _, heq, _, _, h⟩ := mem_named h
    obtain ⟨rfl, rfl⟩ := List.cons.inj heq
    rw [← depth_childPath, ← path_entrySpot fs dir.path name m]
    exact depth_of_onward (depth_of_found hfs n rest _ htight) h

/-- No two branches find paths with the same components. -/
theorem name_eq_of_branch (hfs : fs.root.WellFormed) {a b : Name × Option Node}
    (ha : IsBranch pattern a) (hb : IsBranch pattern b)
    (htight : ['.'] ∈ fittingDots pattern → ∀ g ∈ rest, isLoose g = false)
    (hp : .found p ∈ branch fs mustBeDir (n + 1) pattern rest dir a)
    (hq : .found q ∈ branch fs mustBeDir (n + 1) pattern rest dir b)
    (h : Path.laterComponents p = Path.laterComponents q) : a.1 = b.1 := by
  have hdepth : depth [a.1] = depth [b.1] := by
    by_cases hhere : ['.'] ∈ fittingDots pattern
    · have hne : pattern ≠ [.directories] := by
        rintro rfl
        cases hhere
      have hdepthp := depth_of_branch hfs hne (htight hhere) hp
      have hdepthq := depth_of_branch hfs hne (htight hhere) hq
      have hsame : depth p = depth q := congrArg List.length h
      omega
    · have hone : ∀ {b}, IsBranch pattern b → depth [b.1] = 1 := by
        intro b hb
        rcases hb.cases with heq | ⟨_, hmem⟩ | hproper
        · rw [heq]
          rfl
        · exact absurd hmem hhere
        · exact depth_of_isProper hproper
      rw [hone ha, hone hb]
  have hlength : (dir.path.laterComponents ++ Path.laterComponents [a.1]).length =
      (dir.path.laterComponents ++ Path.laterComponents [b.1]).length := by
    rw [List.length_append, List.length_append]
    exact congrArg _ hdepth
  have hprefixa := prefix_of_branch hp
  have hprefixb := prefix_of_branch hq
  rw [h] at hprefixa
  have hprefix := List.prefix_of_prefix_length_le hprefixa hprefixb (Nat.le_of_eq hlength)
  have heq := hprefix.eq_of_length hlength
  exact ha.name_eq hb (List.append_cancel_left heq)

theorem nodup_onward (h : (componentsOf (hits fs mustBeDir n rest s)).Nodup) :
    (componentsOf (onward fs mustBeDir n rest s)).Nodup := by
  rw [onward, arrival]
  split
  · split
    · exact List.nodup_nil
    · exact List.nodup_singleton _
  · exact h

theorem nodup_named (hhits : ∀ rest, looseCount rest ≤ 1 →
      (componentsOf (hits fs mustBeDir n rest s)).Nodup) (h : looseCount patterns ≤ 1) :
    (componentsOf (named fs mustBeDir n s patterns)).Nodup := by
  cases patterns with
  | nil => exact List.nodup_nil
  | cons pattern rest =>
    rw [named]
    split
    · split
      · exact nodup_onward (hhits rest (Nat.le_trans looseCount_le h))
      · exact List.nodup_nil
    · exact List.nodup_nil

theorem nodup_candidate (hfs : fs.root.WellFormed) (hname : IsProper name)
    (hlast : s.path.fileName? = some name)
    (hhits : ∀ rest, looseCount rest ≤ 1 → (componentsOf (hits fs mustBeDir n rest s)).Nodup)
    (h : looseCount patterns ≤ 1) :
    (componentsOf (follow fs mustBeDir (n + 1) (.candidate s patterns))).Nodup := by
  have hcount : looseCount (collapse patterns) ≤ 1 := by
    rw [looseCount_collapse]
    exact h
  by_cases hdirectories : ∃ rest, collapse patterns = [.directories] :: rest
  · obtain ⟨rest, hrest⟩ := hdirectories
    have htight := tight_of_collapse h hrest
    rw [hrest] at hcount
    rw [follow_candidate_directories hrest, componentsOf_append]
    refine List.Nodup.append ?_ ?_ fun c hc hc' => ?_
    · rw [direct]
      split
      · split
        · exact List.nodup_singleton _
        · exact List.nodup_nil
      · exact nodup_named hhits (Nat.le_trans looseCount_le hcount)
    · rw [below]
      split
      · exact hhits _ hcount
      · exact List.nodup_nil
    · obtain ⟨q, hq, rfl⟩ := mem_componentsOf.1 hc
      obtain ⟨q', hq', heq⟩ := mem_componentsOf.1 hc'
      have hdirect := depth_of_direct hfs hname hlast htight hq
      have hbelow := depth_of_found_directories hfs n htight (mem_below hq')
      have hsame : depth q' = depth q := congrArg List.length heq
      omega
  · rw [follow_candidate fun rest hrest => hdirectories ⟨rest, hrest⟩]
    exact nodup_named hhits hcount

theorem nodup_listed (hfs : fs.root.WellFormed) (hliteral : Glob.literal? pattern = none)
    (hdir : dir.isDirectory = true) (hlist : fs.list dir.path = .ok entries)
    (honward : ∀ s, (componentsOf (onward fs mustBeDir (n + 1) rest s)).Nodup)
    (hhits : ∀ patterns s, looseCount patterns ≤ 1 →
      (componentsOf (hits fs mustBeDir n patterns s)).Nodup)
    (h : looseCount (pattern :: rest) ≤ 1) :
    (componentsOf (hits fs mustBeDir (n + 1) (pattern :: rest) dir)).Nodup := by
  obtain ⟨hnodup, hproper⟩ := names_of_list hfs hlist
  have hbranches : ∀ b ∈ branches pattern entries, IsBranch pattern b := isBranch_of_mem hproper
  rw [hits_branches hliteral hdir hlist]
  refine nodup_flatMap_hits (nodup_branches hnodup hproper) (fun b hb => ?_) ?_
  · match b, hbranches b hb with
    | (name, none), _ => exact honward _
    | (name, some m), hname =>
      exact nodup_candidate hfs hname (fileName?_entrySpot hname fs dir.path m)
        (fun rest => hhits rest _) h
  · exact fun a ha b hb p q hp hq heq => name_eq_of_branch hfs (hbranches a ha) (hbranches b hb)
      (fun hhere => tight_of_here hliteral hhere h) hp hq heq

/-- With at most one loose pattern, no two found paths have the same components. -/
theorem nodup_hits (hfs : fs.root.WellFormed) (n : Nat) (patterns : List (List Glob)) (dir : Spot)
    (h : looseCount patterns ≤ 1) : (componentsOf (hits fs mustBeDir n patterns dir)).Nodup := by
  induction n generalizing patterns dir with
  | zero =>
    rw [hits_zero]
    exact List.nodup_nil
  | succ n ihn =>
    induction patterns generalizing dir with
    | nil => exact List.nodup_nil
    | cons pattern rest ih =>
      have honward : ∀ s, (componentsOf (onward fs mustBeDir (n + 1) rest s)).Nodup :=
        fun s => nodup_onward (ih s (Nat.le_trans looseCount_le h))
      cases hliteral : Glob.literal? pattern with
      | some name =>
        rw [hits_literal hliteral]
        split
        · exact honward _
        · exact List.nodup_nil
      | none =>
        cases hdir : dir.isDirectory with
        | false =>
          rw [hits_wild_none hliteral hdir]
          exact List.nodup_nil
        | true =>
          cases hlist : fs.list dir.path with
          | error e =>
            rw [hits_wild_unlisted hliteral hdir hlist]
            exact List.nodup_nil
          | ok entries => exact nodup_listed hfs hliteral hdir hlist honward ihn h

/-! ## The order of a discovery -/

theorem isLoose_itself (piece : Name) : isLoose (piece.map Glob.itself) = false := by
  rw [isLoose, beq_false_of_ne (Glob.itself_ne_directories piece), Bool.false_or,
    Bool.and_eq_false_iff]
  cases hliteral : Glob.literal? (piece.map Glob.itself) with
  | some name => exact .inl rfl
  | none =>
    refine .inr (Bool.eq_false_iff.2 fun hhere => ?_)
    obtain rfl := Glob.fits_itself.1 (fits_of_mem_fittingDots (List.contains_iff_mem.1 hhere))
    cases hliteral

theorem looseCount_itself (pieces : Path) :
    looseCount (pieces.map (·.map Glob.itself) ++ rest) = looseCount rest := by
  induction pieces with
  | nil => rfl
  | cons piece pieces ih =>
    rw [List.map_cons, List.cons_append, looseCount, isLoose_itself, ih, Bool.false_and]
    exact Nat.zero_add _

/-- The number of loose parts of a pattern: `**`, and parts with wildcards that fit `.` too. -/
def looseParts (pattern : List Char) : Nat :=
  match (parts (pattern.dropWhile (· == '/'))).mapM Glob.read with
  | .ok patterns => looseCount patterns
  | .error _ => 0

theorem map_path_validateFiles (fs : FileSystem) (ps : List Path) :
    (validateFiles fs ps).map (·.path) = ps := by
  have hpath : ∀ p, (validateFile fs p).path = p := by
    intro p
    rw [validateFile]
    split <;> rfl
  rw [validateFiles, List.map_map]
  exact List.map_id'' hpath ps

variable {root text : List Char} {d : Discovery}

theorem nodup_components_of_search {hs : List Hit} (hfs : fs.root.WellFormed)
    (hsearch : search fs (fullPattern root text) = .ok hs) (h : looseParts text ≤ 1) :
    (componentsOf hs).Nodup := by
  obtain ⟨start, ps, rest, mustBeDir, -, hrest, rfl⟩ := begins_of_search hsearch
  rw [looseParts, hrest] at h
  refine nodup_hits hfs pathLimit _ _ ?_
  rw [looseCount_itself]
  exact h

theorem before_of_discover (hfs : fs.root.WellFormed) (h : discover fs root text = .ok d)
    (hloose : looseParts text ≤ 1) : d.files.Pairwise Path.Before := by
  obtain ⟨hs, hsearch, hfiles⟩ := files_of_discover h
  have hlater := nodup_components_of_search hfs hsearch hloose
  rw [componentsOf, List.Nodup, List.pairwise_map] at hlater
  rw [hfiles]
  refine Path.pairwise_before_mergeSort ?_
  rw [List.Nodup, List.pairwise_map]
  exact (hlater.filter _).imp fun hne heq => hne (Path.laterComponents_eq_of_components_eq heq)

/-- Discovered plugins are sorted, and reported in this order. They ascend strictly, so that each is
reported once, unless two parts of the pattern are loose. -/
theorem discovered_ascending (hfs : fs.root.WellFormed)
    (h : discover fs root text = .ok d) :
    d.files.Pairwise (fun p q => p.le q = true) ∧
      (looseParts text ≤ 1 → d.files.Pairwise Path.Before) ∧
      (validateFiles fs d.files).map (·.path) = d.files := by
  obtain ⟨hs, _, hfiles⟩ := files_of_discover h
  refine ⟨?_, before_of_discover hfs h, map_path_validateFiles fs d.files⟩
  rw [hfiles]
  exact Path.pairwise_le_mergeSort _

/-- A plugin in two directories with the same name. -/
def nestedPlugin : FileSystem :=
  .ofWorkingDirectory <| .dir
    [("a".toList, .dir [("a".toList, .dir [("x.js".toList, .file .empty)])])]

/-- Either directory fits between the two `**`. -/
theorem nested_plugin_repeated :
    discover nestedPlugin ".".toList "**/a/**/*.js".toList =
      .ok ⟨[.ofString "a/a/x.js", .ofString "a/a/x.js"], [], []⟩ := by
  cbv

/-- Plugins at several depths, one with a name that begins like the name of a directory. -/
def scatteredPlugins : FileSystem :=
  .ofWorkingDirectory <| .dir
    [("a".toList, .dir
        [("m".toList, .dir [("y.js".toList, .file .empty)]), ("x.js".toList, .file .empty)]),
      ("a-b.js".toList, .file .empty), ("b.js".toList, .file .empty)]

theorem wellFormed_scatteredPlugins : scatteredPlugins.root.WellFormed := by
  have hinner : (Node.dir [("y.js".toList, .file .empty)]).WellFormed :=
    .singleton (by decide) .file
  have hdir : (Node.dir [("m".toList, .dir [("y.js".toList, .file .empty)]),
      ("x.js".toList, .file .empty)]).WellFormed := by
    refine .dir (by decide) (by decide) ?_
    simp only [List.forall_mem_cons]
    exact ⟨hinner, .file, nofun⟩
  refine .singleton (by decide) (.dir (by decide) (by decide) ?_)
  simp only [List.forall_mem_cons]
  exact ⟨hdir, .file, .file, nofun⟩

/-- By components `a/x.js` comes before `a-b.js`, by characters behind it. -/
theorem discovered_ascending_nested :
    scatteredPlugins.root.WellFormed ∧ looseParts "**/*.js".toList = 1 ∧
      discover scatteredPlugins ".".toList "**/*.js".toList =
        .ok ⟨[.ofString "a/m/y.js", .ofString "a/x.js", .ofString "a-b.js", .ofString "b.js"],
          [], []⟩ ∧
      [Path.ofString "a/m/y.js", .ofString "a/x.js", .ofString "a-b.js", .ofString "b.js"].Pairwise
        Path.Before := by
  have hdiscover : discover scatteredPlugins ".".toList "**/*.js".toList =
      .ok ⟨[.ofString "a/m/y.js", .ofString "a/x.js", .ofString "a-b.js", .ofString "b.js"],
        [], []⟩ := by cbv
  have hloose : looseParts "**/*.js".toList = 1 := by cbv
  exact ⟨wellFormed_scatteredPlugins, hloose, hdiscover,
    (discovered_ascending wellFormed_scatteredPlugins hdiscover).2.1 (Nat.le_of_eq hloose)⟩

end PluginAudit.Plugin
