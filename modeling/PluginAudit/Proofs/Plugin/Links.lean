import Mathlib
import PluginAudit.Plugin.Discovery
import PluginAudit.Proofs.Files.Prefixes
import PluginAudit.Proofs.Files.Spelled

/-!
# Links on the way to plugins

A plugin is a regular file below the root, and its path goes through directories. The directories
may be links.
-/

namespace PluginAudit.Plugin

open Files Search

variable {fs : FileSystem} {root pattern : List Char} {d : Discovery} {p : Path}

theorem discover_of_search {hs : List Hit} (h : search fs (fullPattern root pattern) = .ok hs) :
    discover fs root pattern =
      .ok ⟨((hs.filterMap foundPath?).filter fs.isRegularFile).mergeSort Path.le,
        (hs.filterMap foundPath?).filter (!fs.isRegularFile ·), hs.filterMap warning?⟩ := by
  have hpartition : (hs.filterMap foundPath?).partition fs.isRegularFile = _ :=
    List.partition_eq_filter_filter
  rw [discover, h]
  change Except.ok (Discovery.mk (((hs.filterMap foundPath?).partition fs.isRegularFile).1.mergeSort
    Path.le) ((hs.filterMap foundPath?).partition fs.isRegularFile).2 _) = _
  rw [hpartition]
  rfl

theorem files_of_discover (h : discover fs root pattern = .ok d) :
    ∃ hs, search fs (fullPattern root pattern) = .ok hs ∧
      d.files = ((hs.filterMap foundPath?).filter fs.isRegularFile).mergeSort Path.le := by
  cases hsearch : search fs (fullPattern root pattern) with
  | error e =>
    rw [discover, hsearch] at h
    cases h
  | ok hs =>
    rw [discover_of_search hsearch] at h
    exact ⟨hs, rfl, (Except.ok.inj h) ▸ rfl⟩

theorem mem_foundPaths {hs : List Hit} : p ∈ hs.filterMap foundPath? ↔ .found p ∈ hs := by
  rw [List.mem_filterMap]
  constructor
  · rintro ⟨hit, hhit, hfound⟩
    cases hit with
    | found q =>
      obtain rfl := Option.some.inj hfound
      exact hhit
    | unlisted => cases hfound
  · exact fun hmem => ⟨_, hmem, rfl⟩

theorem mem_discovery {hs : List Hit} (hsearch : search fs (fullPattern root pattern) = .ok hs)
    (h : discover fs root pattern = .ok d) : p ∈ d.files ++ d.skipped ↔ .found p ∈ hs := by
  rw [discover_of_search hsearch] at h
  obtain rfl := Except.ok.inj h
  rw [List.mem_append, List.mem_mergeSort, List.mem_filter, List.mem_filter, mem_foundPaths]
  cases fs.isRegularFile p <;> simp

theorem mem_warnings {hs : List Hit} {w : Warning}
    (hsearch : search fs (fullPattern root pattern) = .ok hs)
    (h : discover fs root pattern = .ok d) (hw : w ∈ d.warnings) :
    ∃ p e, .unlisted p e ∈ hs ∧ warning? (.unlisted p e) = some w := by
  rw [discover_of_search hsearch] at h
  obtain rfl := Except.ok.inj h
  obtain ⟨hit, hhit, hwarning⟩ := List.mem_filterMap.1 hw
  cases hit with
  | found => cases hwarning
  | unlisted p e => exact ⟨p, e, hhit, hwarning⟩

theorem mem_files (h : discover fs root pattern = .ok d) (hp : p ∈ d.files) :
    fs.isRegularFile p = true ∧ ∃ hs, search fs (fullPattern root pattern) = .ok hs ∧
      .found p ∈ hs := by
  obtain ⟨hs, hsearch, hfiles⟩ := files_of_discover h
  rw [hfiles, List.mem_mergeSort, List.mem_filter, mem_foundPaths] at hp
  exact ⟨hp.2, hs, hsearch, hp.1⟩

/-- A directory on the way to a path, or the path itself, is below the root and a link. -/
def PassesLink (fs : FileSystem) (root : List Char) (p : Path) : Prop :=
  ∃ q : Path, q <+: p ∧ q ≠ [] ∧
    ¬ Path.laterComponents q <+: Path.laterComponents (Path.split root) ∧ fs.isLink q = true

/-! ## Where a search for a root begins -/

/-- The path at which a search begins that has to go along the pieces of a root, and the pieces it
goes along from there. -/
inductive BeginsAt : Path → Path → Path → Prop
  | here {p : Name} {ps : Path} (h : p ≠ []) : BeginsAt (p :: ps) Path.here (p :: ps)
  | top {ps : Path} : BeginsAt ([] :: ps) Path.top ps
  | slash : BeginsAt [[]] Path.top [[]]

theorem BeginsAt.laterComponents {pieces start ps : Path} (h : BeginsAt pieces start ps) :
    start.laterComponents = [] ∧ ps.laterComponents = pieces.laterComponents := by
  cases h <;> exact ⟨rfl, rfl⟩

theorem begins_of_search {hs : List Hit} (h : search fs (fullPattern root pattern) = .ok hs) :
    ∃ start ps rest mustBeDir, BeginsAt (Path.split root) start ps ∧
      (parts (pattern.dropWhile (· == '/'))).mapM Glob.read = .ok rest ∧
      hs = hits fs mustBeDir pathLimit (ps.map (·.map Glob.itself) ++ rest) (fs.spot start) := by
  obtain ⟨patterns, hread, hhits⟩ := hits_of_search h
  obtain ⟨rest, hrest, rfl⟩ := read_parts_escape hread
  obtain ⟨piece, pieces, hpieces⟩ := List.exists_cons_of_ne_nil (Path.split_ne_nil root)
  obtain ⟨q, qs, hq⟩ := List.exists_cons_of_ne_nil
    (List.append_ne_nil_of_right_ne_nil (pieces.map Glob.escape)
      (Path.split_ne_nil (pattern.dropWhile (· == '/'))))
  have habsolute : (Path.split (fullPattern root pattern)).isAbsolute =
      (Glob.escape piece).isEmpty := by
    rw [fullPattern, Path.split_append_slash, Glob.split_escape, hpieces, List.map_cons,
      List.cons_append, hq, Path.isAbsolute_cons_cons]
  rw [hpieces, habsolute] at hhits
  rw [hpieces]
  cases piece with
  | cons c cs =>
    rw [List.isEmpty_eq_false_iff.2 (Glob.escape_ne_nil (List.cons_ne_nil c cs))] at hhits
    exact ⟨_, _, rest, _, .here (List.cons_ne_nil c cs), hrest, hhits⟩
  | nil =>
    change hs = hits fs _ pathLimit
      (behindSlash ([] :: (pieces.map (·.map Glob.itself) ++ rest))) (fs.spot Path.top) at hhits
    by_cases hslash : pieces.map (·.map Glob.itself) ++ rest = []
    · obtain ⟨hmap, rfl⟩ := List.append_eq_nil_iff.1 hslash
      obtain rfl := List.map_eq_nil_iff.1 hmap
      exact ⟨_, _, [], _, .slash, hrest, hhits⟩
    · rw [behindSlash,
        if_neg (by simpa [Nat.pos_iff_ne_zero, List.length_eq_zero_iff] using hslash),
        List.tail_cons] at hhits
      exact ⟨_, _, rest, _, .top, hrest, hhits⟩

/-- A hit is below the root, or it is a directory on the way to the root in which a piece with
special characters cannot be looked for. -/
theorem below_of_search {hs : List Hit} {hit : Hit} (hfs : fs.root.WellFormed)
    (hsearch : search fs (fullPattern root pattern) = .ok hs) (hhit : hit ∈ hs) :
    ∃ start ps, BeginsAt (Path.split root) start ps ∧ hit.path.isAbsolute = start.isAbsolute ∧
      ((Path.split root).laterComponents <+: hit.path.laterComponents ∨
        ∃ before piece after e, ps = before ++ piece :: after ∧
          piece.any Glob.isSpecial = true ∧ hit = .unlisted hit.path e ∧
          hit.path.laterComponents = Path.laterComponents before) := by
  obtain ⟨start, ps, rest, mustBeDir, hbegins, -, rfl⟩ := begins_of_search hsearch
  obtain ⟨hstart, hps⟩ := hbegins.laterComponents
  refine ⟨start, ps, hbegins, isAbsolute_of_hit hhit, ?_⟩
  rw [← hps]
  by_cases hnone : ps.map (·.map Glob.itself) ++ rest = []
  · rw [hnone] at hhit
    cases hhit
  · rw [← onward_eq_hits hnone] at hhit
    have hbelow := below_of_hit hfs hhit
    change start.laterComponents ++ ps.laterComponents <+: _ ∨ ∃ before piece after e, _ ∧ _ ∧ _ ∧
      _ = start.laterComponents ++ _ at hbelow
    rwa [hstart] at hbelow

theorem status_of_isRegularFile (h : fs.isRegularFile p = true) :
    ∃ n, fs.status false p = .ok n := by
  rw [FileSystem.isRegularFile] at h
  split at h
  · next n hn => exact ⟨n, hn⟩
  · cases h

theorem discovered (hfs : fs.root.WellFormed) (h : discover fs root pattern = .ok d)
    (hp : p ∈ d.files) :
    fs.isRegularFile p = true ∧
      (Path.split root).laterComponents <+: Path.laterComponents p ∧
      ∀ q : Path, q <+: p → q.text ≠ [] → q ≠ p → fs.isDirectory q = true := by
  obtain ⟨hregular, hs, hsearch, hfound⟩ := mem_files h hp
  refine ⟨hregular, ?_, ?_⟩
  · obtain ⟨_, _, _, _, hbelow | ⟨_, _, _, _, _, _, heq, _⟩⟩ := below_of_search hfs hsearch hfound
    · exact hbelow
    · cases heq
  · rintro q ⟨behind, rfl⟩ htext hne
    obtain ⟨n, hstatus⟩ := status_of_isRegularFile hregular
    refine FileSystem.isDirectory_of_status_append htext ?_ hstatus
    rintro rfl
    exact hne (List.append_nil q).symm

/-! ## Plugins that are spelled out -/

/-- The pieces that a root puts in front of found paths: none if it is `.`, else its own, which
have to be names. -/
def IsBase (root : List Char) (base : Path) : Prop :=
  root = ['.'] ∧ base = [] ∨ base = Path.split root ∧ ∀ n ∈ base, IsProper n

variable {base names : Path}

theorem IsBase.pieces_ne_nil (h : IsBase root base) : ∀ n ∈ Path.split root, n ≠ [] := by
  rcases h with ⟨rfl, _⟩ | ⟨rfl, hproper⟩
  · decide
  · exact fun n hn => (hproper n hn).1

theorem fullPattern_spelled (hnames : names ≠ []) (h : ∀ n ∈ names, IsProper n ∧ '/' ∉ n) :
    fullPattern root (Glob.escape names.text) = Glob.escape (root ++ '/' :: names.text) := by
  have hfirst : ∃ c text, names.text = c :: text ∧ c ≠ '/' := by
    match names with
    | [[]] | [] :: _ :: _ => exact absurd rfl (h [] List.mem_cons_self).1.1
    | [c :: n] =>
      exact ⟨c, n, rfl, fun hc => (h (c :: n) List.mem_cons_self).2 (hc ▸ List.mem_cons_self)⟩
    | (c :: n) :: m :: names =>
      exact ⟨c, _, rfl, fun hc => (h (c :: n) List.mem_cons_self).2 (hc ▸ List.mem_cons_self)⟩
  obtain ⟨c, text, htext, hc⟩ := hfirst
  have hdrop : (Glob.escape names.text).dropWhile (· == '/') = Glob.escape names.text := by
    rw [htext, Glob.escape_cons]
    split <;> simp [hc]
  rw [fullPattern, hdrop, Glob.escape_append]
  rfl

theorem IsBase.spelled (hbase : IsBase root base) (h : ∀ n ∈ names, IsProper n) :
    (Path.split root ++ names).spelled = base ++ names ∧ ¬ (Path.split root ++ names).IsLost := by
  rcases hbase with ⟨rfl, rfl⟩ | ⟨rfl, hproper⟩
  · exact Path.spelled_of_proper h
  · exact Path.spelled_of_proper fun n hn => (List.mem_append.1 hn).elim (hproper n) (h n)

theorem found_below_base (hbase : IsBase root base) (hnames : names ≠ [])
    (h : ∀ n ∈ names, IsProper n) (hsearchable : Searchable fs (base ++ names))
    (hregular : fs.isRegularFile (base ++ names) = true) :
    .found (base ++ names) ∈ hits fs false pathLimit
      ((Path.split root ++ names).map (·.map Glob.itself)) (fs.spot Path.here) := by
  obtain ⟨node, hstatus⟩ := status_of_isRegularFile hregular
  have hshort : (base ++ names).length ≤ pathLimit :=
    Nat.le_trans (length_le_byteLength_text _) (FileSystem.Usable.of_status hstatus).2.1
  rcases List.eq_nil_or_concat' names with rfl | ⟨others, name, rfl⟩
  · exact absurd rfl hnames
  · obtain ⟨hspelled, hlost⟩ := hbase.spelled fun n hn => h n (List.mem_append_left [name] hn)
    have hname : name ≠ [] := (h name (by simp)).1
    rw [← List.append_assoc base, ← hspelled] at hstatus hshort hsearchable ⊢
    rw [← List.append_assoc, List.map_append, ← onward_eq_hits (by simp)]
    refine found_spelled hlost (List.cons_ne_nil name []) (by simpa using hname) hstatus
      hsearchable.of_append Nat.one_pos (by simpa [Nat.add_comm] using hshort)
      fun m s hm hs hknows => ?_
    obtain ⟨m, rfl⟩ : ∃ l, m = l + 1 := ⟨m - 1, by omega⟩
    refine found_step hs hknows (Path.isSpelled_spelled hlost) hname hstatus hsearchable
      fun _ t _ ht _ => ?_
    rw [← ht]
    exact List.mem_singleton_self _

theorem discover_spelled (hbase : IsBase root base) (hnames : names ≠ [])
    (h : ∀ n ∈ names, IsProper n ∧ '/' ∉ n) (hsearchable : Searchable fs (base ++ names))
    (hregular : fs.isRegularFile (base ++ names) = true) :
    ∃ d, discover fs root (Glob.escape names.text) = .ok d ∧ base ++ names ∈ d.files := by
  have hplain : ∀ n ∈ names, n ≠ [] ∧ '/' ∉ n := fun n hn => ⟨(h n hn).1.1, (h n hn).2⟩
  have hparts : parts (Glob.escape (root ++ '/' :: names.text)) =
      (Path.split root ++ names).map Glob.escape := by
    have hescape : Glob.escape (root ++ '/' :: names.text) =
        Glob.escape root ++ '/' :: Glob.escape names.text := Glob.escape_append ..
    rw [hescape, parts_escape, parts_escape_text hnames hplain, List.map_append]
  have hslash : (Glob.escape (root ++ '/' :: names.text)).getLast? ≠ some '/' := by
    obtain ⟨before, hbefore⟩ := Path.text_eq_append hnames
    obtain ⟨hlast, hnone⟩ := hplain _ (List.getLast_mem hnames)
    have hescape : Glob.escape (root ++ '/' :: names.text) =
        Glob.escape (root ++ '/' :: before) ++ Glob.escape (names.getLast hnames) := by
      rw [hbefore, ← List.cons_append, ← List.append_assoc, Glob.escape_append]
    have hnonempty := Glob.escape_ne_nil hlast
    rw [hescape, List.getLast?_append, List.getLast?_eq_some_getLast hnonempty, Option.some_or]
    intro hsome
    exact Glob.slash_notMem_escape hnone (Option.some.inj hsome ▸ List.getLast_mem hnonempty)
  have hrelative : (Path.split (Glob.escape (root ++ '/' :: names.text))).isAbsolute = false := by
    rw [Glob.split_escape, Path.split_append_slash]
    obtain ⟨piece, pieces, hpieces⟩ := List.exists_cons_of_ne_nil (Path.split_ne_nil root)
    have hpiece := Glob.escape_ne_nil (hbase.pieces_ne_nil piece (by simp [hpieces]))
    rw [hpieces, List.cons_append, List.map_cons]
    cases hfirst : Glob.escape piece with
    | nil => exact absurd hfirst hpiece
    | cons c text => rfl
  have hfound := found_below_base hbase hnames (fun n hn => (h n hn).1) hsearchable hregular
  have hsearch : search fs (Glob.escape (root ++ '/' :: names.text)) = _ :=
    search_spelled hparts hslash hrelative
  rw [← fullPattern_spelled hnames h] at hsearch
  refine ⟨_, discover_of_search hsearch, ?_⟩
  rw [List.mem_mergeSort, List.mem_filter, mem_foundPaths]
  exact ⟨hfound, hregular⟩

theorem dots_notMem_split_spelled (hnames : names ≠ []) (h : ∀ n ∈ names, IsProper n ∧ '/' ∉ n) :
    ['.', '.'] ∉ Path.split (Glob.escape names.text) := by
  rw [Glob.split_escape, Path.split_text hnames fun n hn => (h n hn).2, List.mem_map]
  rintro ⟨n, hn, hescape⟩
  have hread := Glob.read_escape n
  rw [hescape] at hread
  have hitself : ['.', '.'].map Glob.itself = n.map Glob.itself := Except.ok.inj hread
  have hdots : ['.', '.'] = n := by
    rw [← Glob.fits_itself, ← hitself, Glob.fits_itself]
  have hproper := (h n hn).1.2
  rw [← hdots] at hproper
  cases hproper

/-- A discovered plugin is a regular file below the root, never a link, and the paths on the way to
it name directories, which may be links: each regular file at a path of names below the root is
discovered by some pattern without `..`, if the directories on the way can be listed where a name
has special characters. So a link is passed on the way to a plugin exactly where it leads to a
directory with a regular file below. -/
theorem discovered_behind_directories {fs : FileSystem} (hfs : fs.root.WellFormed)
    (root : List Char) :
    (∀ pattern d, discover fs root pattern = .ok d → ∀ p ∈ d.files,
      fs.isRegularFile p = true ∧ fs.isLink p = false ∧
      Path.laterComponents (Path.split root) <+: Path.laterComponents p ∧
      ∀ q : Path, q <+: p → q.text ≠ [] → q ≠ p → fs.isDirectory q = true) ∧
    ∀ base names, IsBase root base → names ≠ [] → (∀ n ∈ names, IsProper n ∧ '/' ∉ n) →
      Searchable fs (base ++ names) →
      ((∃ pattern d, ['.', '.'] ∉ Path.split pattern ∧ discover fs root pattern = .ok d ∧
        base ++ names ∈ d.files) ↔ fs.isRegularFile (base ++ names) = true) := by
  refine ⟨fun pattern d hd p hp => ?_, fun base names hbase hnames h hsearchable => ?_⟩
  · obtain ⟨hregular, hbelow, hdirectories⟩ := discovered hfs hd hp
    exact ⟨hregular, FileSystem.isLink_of_isRegularFile hregular, hbelow, hdirectories⟩
  · constructor
    · rintro ⟨pattern, d, _, hd, hp⟩
      exact (mem_files hd hp).1
    · intro hregular
      obtain ⟨d, hd, hp⟩ := discover_spelled hbase hnames h hsearchable hregular
      exact ⟨_, d, dots_notMem_split_spelled hnames h, hd, hp⟩

/-- Plugins in `r`, with a link to a directory outside. -/
def linkedPlugins : FileSystem :=
  .ofWorkingDirectory <| .dir
    [("out".toList, .dir [("a.js".toList, .file .empty)]),
      ("r".toList, .dir [("plugins".toList, .dir [("l".toList, .link (.ofString "../../out"))])])]

/-- The plugin outside is discovered through the link. -/
theorem linked_plugin_discovered :
    discover linkedPlugins "r".toList "plugins/**/*.js".toList =
      .ok ⟨[.ofString "r/plugins/l/a.js"], [], []⟩ ∧
    PassesLink linkedPlugins "r".toList (.ofString "r/plugins/l/a.js") := by
  refine ⟨by cbv, .ofString "r/plugins/l", ⟨["a.js".toList], ?_⟩, ?_, ?_, ?_⟩
  · decide
  · decide
  · decide
  · cbv

/-- The target of a link may be absolute. -/
example :
    let fs : FileSystem := .ofWorkingDirectory <| .dir
      [("out".toList, .dir [("a.js".toList, .file .empty)]),
        ("r".toList, .dir [("l".toList, .link (.ofString "/work/out"))])]
    discover fs "r".toList "*/*.js".toList = .ok ⟨[.ofString "r/l/a.js"], [], []⟩ := by
  cbv

theorem wellFormed_linkedPlugins : linkedPlugins.root.WellFormed := by
  have hplugins : (Node.dir [("l".toList, .link (.ofString "../../out"))]).WellFormed :=
    .singleton (by decide) .link
  refine .singleton (by decide) (.dir (by decide) (by decide) ?_)
  simp only [List.forall_mem_cons]
  exact ⟨.singleton (by decide) .file, .singleton (by decide) hplugins, nofun⟩

theorem discovered_behind_directories_linked :
    linkedPlugins.root.WellFormed ∧ ∃ pattern d, ['.', '.'] ∉ Path.split pattern ∧
      discover linkedPlugins "r".toList pattern = .ok d ∧
      [['r']] ++ ["plugins".toList, "l".toList, "a.js".toList] ∈ d.files := by
  have hproper : ∀ n ∈ ["plugins".toList, "l".toList, "a.js".toList], IsProper n ∧ '/' ∉ n := by
    decide
  refine ⟨wellFormed_linkedPlugins, ?_⟩
  refine ((discovered_behind_directories wellFormed_linkedPlugins "r".toList).2 _ _ ?_
    (List.cons_ne_nil _ _) hproper (searchable_of_plain (by decide))).2 ?_
  · exact .inr ⟨by decide, by decide⟩
  · cbv

end PluginAudit.Plugin
