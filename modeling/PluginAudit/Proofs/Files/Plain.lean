import PluginAudit.Proofs.Files.Spelled

/-!
# Trees without links

Where no links are and all directories are open, a walk along names goes down the tree by these
names, and pieces that lead nowhere may be left out. So a path names a regular file exactly if the
tree has one there and the path and its names are short enough.
-/

namespace PluginAudit.Files

open Text

/-- No link is anywhere below, and all directories can be listed and passed. -/
inductive Node.Plain : Node → Prop
  | file {bytes : ByteArray} {access : Access} : Plain (.file bytes access)
  | dir {entries : List (Name × Node)} (h : ∀ e ∈ entries, Plain e.2) : Plain (.dir entries)

theorem Node.Plain.entry {entries : List (Name × Node)} {access : Access}
    (h : (Node.dir entries access).Plain) : ∀ e ∈ entries, e.2.Plain := by
  cases h with
  | dir hentries => exact hentries

theorem Node.Plain.access {entries : List (Name × Node)} {access : Access}
    (h : (Node.dir entries access).Plain) : access = {} := by
  cases h
  rfl

theorem Node.Plain.isLink {n : Node} (h : n.Plain) : n.isLink = false := by
  cases h <;> rfl

theorem Node.Plain.at? {n m : Node} (h : n.Plain) {path : Path} (hat : n.at? path = some m) :
    m.Plain :=
  Node.at?_induction (fun _ _ hdir => hdir.entry) h hat

namespace FileSystem

variable {root node : Node} {followLast : Bool} {links : Nat} {current place ps qs names : Path}
  {p q : Name} {entries : List (Name × Node)}

theorem eq_dir_or_not (hplain : root.Plain) (current : Path) :
    (∃ entries, root.at? current = some (.dir entries)) ∨
      ¬ ∃ entries access, root.at? current = some (.dir entries access) := by
  by_cases hdir : ∃ entries access, root.at? current = some (.dir entries access)
  · obtain ⟨entries, access, hdir⟩ := hdir
    obtain rfl := (hplain.at? hdir).access
    exact .inl ⟨entries, hdir⟩
  · exact .inr hdir

/-- One step along a piece that leads somewhere. -/
theorem walk_step (hplain : root.Plain) (hp : p ≠ []) (hhere : p ≠ ['.'])
    (hdir : root.at? current = some (.dir entries)) :
    walk root followLast links current (p :: ps) =
      if p = ['.', '.'] then walk root followLast links current.dropLast ps
      else if nameLimit < byteLength p then .error .nameTooLong
      else if entries.lookup p = none then .error .notFound
      else walk root followLast links (current ++ [p]) ps := by
  rw [walk, hdir]
  simp only [List.isEmpty_iff, hp, hhere, beq_iff_eq, if_false]
  split
  · rfl
  · split
    · rfl
    · cases hlookup : entries.lookup p with
      | none => rfl
      | some next =>
        obtain ⟨l₁, l₂, rfl, _⟩ := List.lookup_eq_some_iff.1 hlookup
        cases (hplain.at? hdir).entry (p, next) (by simp) with
        | file | dir => simp

/-- Empty pieces may be left out before another piece. -/
theorem walk_filter (hplain : root.Plain) (hqs : qs ≠ []) :
    walk root followLast links current (ps.filter (· ≠ []) ++ qs) =
      walk root followLast links current (ps ++ qs) := by
  induction ps generalizing current with
  | nil => rfl
  | cons p ps ih =>
    rcases eq_dir_or_not hplain current with ⟨entries, hdir⟩ | hdir
    · by_cases hp : p = []
      · rw [List.filter_cons_of_neg (by simpa using hp), List.cons_append, hp, walk_empty hdir, ih]
      · rw [List.filter_cons_of_pos (by simpa using hp), List.cons_append, List.cons_append]
        by_cases hhere : p = ['.']
        · rw [hhere, walk_here hdir rfl, walk_here hdir rfl, ih]
        · rw [walk_step hplain hp hhere hdir, walk_step hplain hp hhere hdir, ih, ih]
    · rw [walk_of_not_directory hdir (List.append_ne_nil_of_right_ne_nil _ hqs),
        walk_of_not_directory hdir (List.append_ne_nil_of_right_ne_nil _ hqs)]

theorem walk_dropWhile (hplain : root.Plain) (hqs : qs ≠ []) :
    walk root followLast links current (ps.dropWhile (· == ['.']) ++ qs) =
      walk root followLast links current (ps ++ qs) := by
  induction ps with
  | nil => rfl
  | cons p ps ih =>
    rw [List.dropWhile_cons]
    split
    · next hp =>
      rw [ih, eq_of_beq hp]
      rcases eq_dir_or_not hplain current with ⟨entries, hdir⟩ | hdir
      · exact (walk_here hdir rfl).symm
      · rw [walk_of_not_directory hdir (List.append_ne_nil_of_right_ne_nil _ hqs),
          walk_of_not_directory hdir (List.append_ne_nil_of_right_ne_nil _ hqs)]
    · rfl

/-- A walk along names goes down the tree by them. -/
theorem walk_names (hplain : root.Plain) (hnames : ∀ n ∈ names, IsProper n) :
    (∃ place, walk root followLast links current names = .ok place ∧
      root.at? place = some node) ↔
    (∀ n ∈ names, byteLength n ≤ nameLimit) ∧ root.at? (current ++ names) = some node := by
  induction names generalizing current with
  | nil =>
    rw [walk]
    simp
  | cons p ps ih =>
    obtain ⟨⟨hp, hdots⟩, hps⟩ := List.forall_mem_cons.1 hnames
    rw [Search.isDots, Bool.or_eq_false_iff, beq_eq_false_iff_ne, beq_eq_false_iff_ne] at hdots
    have hat : root.at? (current ++ p :: ps) = (root.at? current).bind (·.at? (p :: ps)) :=
      root.at?_append current (p :: ps)
    rcases eq_dir_or_not hplain current with ⟨entries, hdir⟩ | hdir
    · rw [walk_step hplain hp hdots.1 hdir, if_neg hdots.2, List.forall_mem_cons]
      split
      · next hlong => simp [Nat.not_le.2 hlong]
      · next hshort =>
        split
        · next hnone => simp [hat, hdir, Node.at?, hnone]
        · rw [ih hps, List.append_assoc]
          simp [Nat.not_lt.1 hshort]
    · rw [walk_of_not_directory hdir (List.cons_ne_nil p ps)]
      refine iff_of_false (by simp) fun h => hdir ?_
      obtain ⟨m, hm, hbelow⟩ := Option.bind_eq_some_iff.1 (hat.symm.trans h.2)
      cases m with
      | file | link => cases hbelow
      | dir entries access => exact ⟨entries, access, hm⟩

variable {fs : FileSystem} {pieces : Path}

/-- What a path leads to, however long it is. -/
def nodeAt? (fs : FileSystem) (path : Path) : Option Node :=
  (fs.place true path).toOption.bind fs.root.at?

theorem wellFormed_of_nodeAt? (hfs : fs.root.WellFormed) (h : fs.nodeAt? ps = some node) :
    node.WellFormed := by
  obtain ⟨place, _, hat⟩ := Option.bind_eq_some_iff.1 h
  exact hfs.at? hat

theorem place_spelled (hplain : fs.root.Plain) (hrelative : pieces.isAbsolute = false)
    (hnames : ∀ n ∈ names, IsProper n) (hne : names ≠ []) :
    (∃ place, fs.place followLast (pieces.spelled ++ names) = .ok place ∧
      fs.root.at? place = some node) ↔
    (∀ n ∈ names, byteLength n ≤ nameLimit) ∧
      (fs.nodeAt? pieces).bind (·.at? names) = some node := by
  have hspelled : Path.isAbsolute (pieces.spelled ++ names) = false := by
    refine Path.isAbsolute_of_notMem fun hmem => ?_
    rcases List.mem_append.1 hmem with hmem | hmem
    · simp [Path.spelled] at hmem
    · exact (hnames [] hmem).1 rfl
  obtain ⟨links', happend⟩ := walk_append fs.root linkLimit fs.working pieces
  rw [nodeAt?, FileSystem.place, FileSystem.place, Path.origin, hspelled, Path.origin, hrelative,
    if_neg Bool.false_ne_true, Path.spelled, walk_filter hplain hne, walk_dropWhile hplain hne,
    happend followLast names hne]
  cases walk fs.root true linkLimit fs.working pieces with
  | error e => simp [Except.bind, Except.toOption]
  | ok middle =>
    have hbelow : (∃ place, walk fs.root followLast links' middle names = .ok place ∧
        fs.root.at? place = some node) ↔ _ := walk_names hplain hnames
    rw [Node.at?_append] at hbelow
    exact hbelow

/-- A regular file at some names below what a path leads to. -/
theorem isRegularFile_spelled (hplain : fs.root.Plain) (hrelative : pieces.isAbsolute = false)
    (hnames : ∀ n ∈ names, IsProper n) (hne : names ≠ []) :
    fs.isRegularFile (pieces.spelled ++ names) = true ↔
      Usable (pieces.spelled ++ names) ∧ (∀ n ∈ names, byteLength n ≤ nameLimit) ∧
      ∃ bytes access, (fs.nodeAt? pieces).bind (·.at? names) = some (.file bytes access) := by
  have hfile : fs.isRegularFile (pieces.spelled ++ names) = true ↔
      ∃ bytes access, fs.status false (pieces.spelled ++ names) = .ok (.file bytes access) := by
    rw [isRegularFile]
    cases fs.status false (pieces.spelled ++ names) with
    | error e => simp
    | ok n => cases n <;> simp [Node.isFile]
  rw [hfile]
  simp only [status_eq_ok, and_assoc, exists_and_left,
    place_spelled hplain hrelative hnames hne]

/-! ## Directories that cannot be listed -/

open Search

theorem listsAll_of_plain (hplain : fs.root.Plain) : ListsAll fs := by
  intro p h
  obtain ⟨entries, access, hstatus⟩ := isDirectory_iff.1 h
  obtain ⟨place, _, hat⟩ := status_eq_ok.1 hstatus
  obtain rfl := (hplain.at? hat).access
  exact ⟨entries, list_eq_ok.2 ⟨none, hstatus⟩⟩

/-- A directory in a directory that can be listed, at a path that is too long to be looked up. -/
def IsOutOfReach (fs : FileSystem) (path : Path) : Prop :=
  ∃ dir entries e, fs.list dir = .ok entries ∧ e ∈ entries ∧ e.2.isDir = true ∧
    path = childPath dir e.1 ∧ ¬ (Usable path ∧ byteLength e.1 ≤ nameLimit)

/-- A listing is right about an entry that is a directory, or the directory is out of reach. -/
theorem isDirectory_or_isOutOfReach (hfs : fs.root.WellFormed) (hplain : fs.root.Plain)
    {dir : Path} {e : Name × Node} (hlist : fs.list dir = .ok entries) (he : e ∈ entries)
    (h : (entrySpot fs dir e.1 e.2).isDirectory = true) :
    fs.isDirectory (childPath dir e.1) = true ∨ fs.IsOutOfReach (childPath dir e.1) := by
  obtain ⟨passing, hstatus⟩ := list_eq_ok.1 hlist
  obtain ⟨place, _, hat⟩ := status_eq_ok.1 hstatus
  obtain ⟨hnodup, hproper⟩ := names_of_list hfs hlist
  have hentry := (hplain.at? hat).entry e he
  have hopen := (hplain.at? hat).access
  rw [entrySpot, hentry.isLink, if_neg Bool.false_ne_true] at h
  by_cases hreach : Usable (childPath dir e.1) ∧ byteLength e.1 ≤ nameLimit
  · have hchild : fs.status true (childPath dir e.1) = .ok e.2 :=
      (status_childPath (hproper e he) hstatus (lookup_of_mem hnodup he) hentry.isLink).2
        ⟨hreach.1, congrArg Access.passing hopen, hreach.2, rfl⟩
    refine .inl ?_
    rw [isDirectory, hchild]
    exact h
  · exact .inr ⟨dir, entries, e, hlist, he, h, rfl, hreach⟩

/-- All that a search cannot list is out of reach. -/
theorem isOutOfReach_of_unlisted (hfs : fs.root.WellFormed) (hplain : fs.root.Plain)
    {mustBeDir : Bool} {n : Nat} {patterns : List (List Glob)} {dir path : Path} {e : FileError}
    (h : .unlisted path e ∈ hits fs mustBeDir n patterns (fs.spot dir)) :
    fs.IsOutOfReach path := by
  obtain ⟨s, hs, rfl, hisdir, hlist⟩ := (hit_induction
    (P := fun s => s.isDirectory = true → fs.isDirectory s.path = true ∨ fs.IsOutOfReach s.path)
    (fun _ _ _ => ⟨.inl, .inl⟩)
    (fun dir entries e _ hlist he hisdir => by
      rw [path_entrySpot]
      exact isDirectory_or_isOutOfReach hfs hplain hlist he hisdir) n).1 patterns _ _ .inl h
  refine (hs hisdir).resolve_left fun hdirectory => ?_
  obtain ⟨entries, hlisted⟩ := listsAll_of_plain hplain _ hdirectory
  rw [hlist] at hlisted
  cases hlisted

end FileSystem

end PluginAudit.Files
