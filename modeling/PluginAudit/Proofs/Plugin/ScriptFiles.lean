import PluginAudit.Proofs.Files.Below
import PluginAudit.Proofs.Files.Plain
import PluginAudit.Proofs.Plugin.Repeats

/-!
# Plugins by the default pattern

In a tree without links and with open directories the default pattern discovers the script files
below the directory of plugins, at any depth, each once and in order. A root that begins with an
empty piece behind `.` is the exception: `./` names the working directory, but nothing is discovered
below it.
-/

namespace PluginAudit.Plugin

open Files Search FileSystem Text

variable {fs : FileSystem} {root : List Char} {n : Node} {names p : Path}

/-- The directory of plugins below a root, by its pieces. -/
def pluginsPath (root : List Char) : Path := Path.split root ++ ["plugins".toList]

/-- A regular file at some depth below a node whose name ends in `.js`. -/
structure IsScriptFile (n : Node) (names : Path) : Prop where
  isFile : ∃ bytes access, n.at? names = some (.file bytes access)
  extension : ∃ name, names.getLast? = some name ∧ ".js".toList <:+ name

/-- The pattern `*.js`. -/
def scriptName : List Glob := .run :: ".js".toList.map Glob.itself

theorem fits_scriptName {name : Name} :
    Glob.fits scriptName name = true ↔ ".js".toList <:+ name := by
  simp only [scriptName, Glob.fits_run, Glob.fits_itself, exists_eq_right]

/-! ## The search -/

theorem fullPattern_default (root : List Char) :
    fullPattern root defaultPattern.toList =
      Glob.escape root ++ '/' :: defaultPattern.toList := rfl

theorem read_default (root : List Char) :
    ∃ gs, Glob.read (fullPattern root defaultPattern.toList) = .ok gs := by
  have hread : Glob.read defaultPattern.toList =
      .ok ("plugins/".toList.map Glob.itself ++ .directories :: scriptName) := rfl
  exact ⟨_, Glob.read_escape_slash.2 ⟨_, hread, rfl⟩⟩

theorem parts_default (root : List Char) :
    (parts (fullPattern root defaultPattern.toList)).mapM Glob.read =
      .ok ((pluginsPath root).map (·.map Glob.itself) ++ [[.directories], scriptName]) := by
  have hparts : parts (fullPattern root defaultPattern.toList) =
      (Path.split root).map Glob.escape ++ parts "plugins/**/*.js".toList := parts_escape root _
  have hread : (parts "plugins/**/*.js".toList).mapM Glob.read =
      .ok ["plugins".toList.map Glob.itself, [.directories], scriptName] := rfl
  rw [hparts, List.mapM_append, mapM_read_escape, hread, pluginsPath, List.map_append,
    List.append_assoc]
  rfl

theorem search_default (hroot : root ≠ []) (hrelative : root.head? ≠ some '/') :
    search fs (fullPattern root defaultPattern.toList) = .ok (hits fs false pathLimit
      ((pluginsPath root).map (·.map Glob.itself) ++ [[.directories], scriptName])
      (fs.spot Path.here)) := by
  obtain ⟨gs, hread⟩ := read_default root
  have hslash : (fullPattern root defaultPattern.toList).getLast? = some 's' := by
    rw [fullPattern_default, List.getLast?_append]
    rfl
  have habsolute : (Path.split (fullPattern root defaultPattern.toList)).isAbsolute = false :=
    Path.isAbsolute_split (Glob.head?_escape hroot hrelative _)
  rw [search, hread, parts_default, hslash, habsolute]
  rfl

theorem isAbsolute_pluginsPath (hroot : root ≠ []) (hrelative : root.head? ≠ some '/') :
    (pluginsPath root).isAbsolute = false := by
  have hsplit : pluginsPath root = Path.split (root ++ '/' :: "plugins".toList) :=
    (Path.split_append_slash root "plugins".toList).symm
  rw [hsplit]
  refine Path.isAbsolute_split ?_
  obtain ⟨c, cs, rfl⟩ := List.exists_cons_of_ne_nil hroot
  exact hrelative

theorem isProper_plugins : IsProper "plugins".toList := by decide

/-- The paths that the search finds and that name regular files. -/
theorem found_script_file_iff (hfs : fs.root.WellFormed) (hplain : fs.root.Plain)
    (hrelative : (pluginsPath root).isAbsolute = false) :
    fs.isRegularFile p = true ∧ .found p ∈ hits fs false pathLimit
      ((pluginsPath root).map (·.map Glob.itself) ++ [[.directories], scriptName])
      (fs.spot Path.here) ↔
    ¬ (Path.split root).IsLost ∧ ∃ n names, fs.nodeAt? (pluginsPath root) = some n ∧
      IsScriptFile n names ∧ p = (pluginsPath root).spelled ++ names ∧ Usable p ∧
      ∀ name ∈ names, byteLength name ≤ nameLimit := by
  have hne : scriptName ≠ [.directories] := by decide
  have hlost : (pluginsPath root).IsLost ↔ (Path.split root).IsLost :=
    (Path.spelled_append _ isProper_plugins).2
  rw [← hlost, ← onward_eq_hits (by simp)]
  constructor
  · rintro ⟨hregular, hfound⟩
    obtain ⟨hlost, m, dir, hdir, hbelow⟩ := spelled_of_found hfs rfl hfound
    obtain ⟨others, name, hproper, hfits, rfl⟩ :=
      names_of_found hfs hne hdir (Path.isSpelled_spelled hlost) hbelow
    obtain ⟨husable, hshort, bytes, access, hbytes⟩ :=
      (isRegularFile_spelled hplain hrelative hproper (List.concat_ne_nil name others)).1 hregular
    obtain ⟨n, hn, hfile⟩ := Option.bind_eq_some_iff.1 hbytes
    have hscript : IsScriptFile n (others ++ [name]) :=
      ⟨⟨bytes, access, hfile⟩, name, List.getLast?_concat, fits_scriptName.1 hfits⟩
    exact ⟨hlost, n, others ++ [name], hn, hscript, rfl, husable, hshort⟩
  · rintro ⟨hlost, n, names, hn, ⟨⟨bytes, access, hfile⟩, name, hlast, hname⟩, rfl, husable, hshort⟩
    obtain ⟨others, rfl⟩ := List.getLast?_eq_some_iff.1 hlast
    have hproper : ∀ m ∈ others ++ [name], IsProper m :=
      (wellFormed_of_nodeAt? hfs hn).proper_of_at? hfile
    have hregular : fs.isRegularFile ((pluginsPath root).spelled ++ (others ++ [name])) = true :=
      (isRegularFile_spelled hplain hrelative hproper (List.concat_ne_nil name others)).2
        ⟨husable, hshort, bytes, access, Option.bind_eq_some_iff.2 ⟨n, hn, hfile⟩⟩
    obtain ⟨node, hstatus⟩ := status_of_isRegularFile hregular
    have hspelled : IsSpelled (pluginsPath root).spelled := Path.isSpelled_spelled hlost
    have hlists : ListsAll fs := FileSystem.listsAll_of_plain hplain
    have hfirst : (others ++ [name]).head? ≠ some [] :=
      fun hhead => (hproper [] (List.mem_of_head? hhead)).1 rfl
    refine ⟨hregular, found_spelled hlost (List.concat_ne_nil name others) hfirst hstatus
      (searchable_of_listsAll hlists hspelled hstatus) (Nat.succ_pos others.length) ?_
      fun m dir hm hdir hknows => ?_⟩
    · have hlength := length_le_byteLength_text ((pluginsPath root).spelled ++ (others ++ [name]))
      have hlimit := husable.2.1
      simp only [List.length_append, List.length_singleton] at hlength
      omega
    · exact found_of_names hne hlists hdir hknows hspelled hproper (fits_scriptName.2 hname) hm
        hstatus

/-- Below a relative root, in a tree without links and with open directories, the default pattern
discovers each script file in the directory of plugins whose path can be looked up, once and in
order; but it discovers nothing if the root begins with an empty piece, or with one behind `.`.
Warnings are only about directories whose paths are too long to be looked up. -/
theorem discovered_script_files {fs : FileSystem} (hfs : fs.root.WellFormed)
    (hplain : fs.root.Plain) {root : List Char} (hroot : root ≠ [])
    (hrelative : root.head? ≠ some '/') :
    ∃ d, discover fs root defaultPattern.toList = .ok d ∧
      (∀ w ∈ d.warnings, ∃ p : Path, w.path = p.toString ∧ fs.IsOutOfReach p) ∧
      d.files.Pairwise Path.Before ∧
      ∀ p, p ∈ d.files ↔ ¬ (Path.split root).IsLost ∧
        ∃ n names, fs.nodeAt? (pluginsPath root) = some n ∧ IsScriptFile n names ∧
          p = (pluginsPath root).spelled ++ names ∧ Usable p ∧
          ∀ name ∈ names, byteLength name ≤ nameLimit := by
  have hsearch : search fs (fullPattern root defaultPattern.toList) = _ :=
    search_default hroot hrelative
  have hd : discover fs root defaultPattern.toList = _ := discover_of_search hsearch
  have hloose : looseParts defaultPattern.toList = 1 := by cbv
  refine ⟨_, hd, fun w hw => ?_, before_of_discover hfs hd (Nat.le_of_eq hloose), fun p => ?_⟩
  · obtain ⟨p, e, hunlisted, hwarning⟩ := mem_warnings hsearch hd hw
    obtain rfl := Option.some.inj hwarning
    exact ⟨p, rfl, isOutOfReach_of_unlisted hfs hplain hunlisted⟩
  · rw [← found_script_file_iff hfs hplain (isAbsolute_pluginsPath hroot hrelative),
      List.mem_mergeSort, List.mem_filter, mem_foundPaths, and_comm]

/-- A script file named just `.js`, and one in a directory named like a script file. -/
def scriptTree : FileSystem :=
  .ofWorkingDirectory <| .dir
    [("plugins".toList, .dir
      [(".js".toList, .file .empty), ("d.js".toList, .dir [("a.js".toList, .file .empty)])])]

theorem wellFormed_scriptTree : scriptTree.root.WellFormed := by
  have hinner : (Node.dir [("a.js".toList, .file .empty)]).WellFormed :=
    .singleton (by decide) .file
  have hplugins : (Node.dir [(".js".toList, .file .empty),
      ("d.js".toList, .dir [("a.js".toList, .file .empty)])]).WellFormed := by
    refine .dir (by decide) (by decide) ?_
    simp only [List.forall_mem_cons]
    exact ⟨.file, hinner, nofun⟩
  exact .singleton (by decide) (.singleton (by decide) hplugins)

theorem plain_scriptTree : scriptTree.root.Plain := by
  have hinner : (Node.dir [("a.js".toList, .file .empty)]).Plain :=
    .dir (List.forall_mem_singleton.2 .file)
  have hplugins : (Node.dir [(".js".toList, .file .empty),
      ("d.js".toList, .dir [("a.js".toList, .file .empty)])]).Plain := by
    refine .dir ?_
    simp only [List.forall_mem_cons]
    exact ⟨.file, hinner, nofun⟩
  exact .dir (List.forall_mem_singleton.2 (.dir (List.forall_mem_singleton.2 hplugins)))

theorem discovered_script_files_tree :
    scriptTree.root.WellFormed ∧ scriptTree.root.Plain ∧
      ∃ d, discover scriptTree ['.'] defaultPattern.toList = .ok d ∧
        Path.ofString "plugins/d.js/a.js" ∈ d.files := by
  have hroot : ['.'] ≠ [] ∧ ['.'].head? ≠ some '/' := by decide
  obtain ⟨d, hd, _, _, hfiles⟩ :=
    discovered_script_files wellFormed_scriptTree plain_scriptTree hroot.1 hroot.2
  refine ⟨wellFormed_scriptTree, plain_scriptTree, d, hd, (hfiles _).2 ⟨by decide, ?_⟩⟩
  have hscript : IsScriptFile (.dir [(".js".toList, .file .empty),
      ("d.js".toList, .dir [("a.js".toList, .file .empty)])])
      ["d.js".toList, "a.js".toList] :=
    ⟨⟨.empty, {}, rfl⟩, "a.js".toList, rfl, by decide⟩
  refine ⟨_, _, ?_, hscript, by decide, ⟨by decide, by decide, by decide⟩, by decide⟩
  cbv

/-- `./` is the working directory too, but its plugins are not discovered. -/
theorem script_files_lost :
    discover scriptTree ".".toList defaultPattern.toList =
      .ok ⟨[.ofString "plugins/.js", .ofString "plugins/d.js/a.js"],
        [.ofString "plugins/d.js"], []⟩ ∧
    discover scriptTree "./".toList defaultPattern.toList = .ok ⟨[], [], []⟩ := by
  constructor <;> cbv

end PluginAudit.Plugin
